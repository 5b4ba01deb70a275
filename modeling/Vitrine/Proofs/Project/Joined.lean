import Mathlib.Data.List.Basic
import Mathlib.Data.List.Induction
import Vitrine.Project.Kind

/-!
# Joined paths (section 4.4)

A path that is joined is made of segments, which are neither empty nor hold a slash, whatever the pieces
were that it was joined from. So it has one slash in front and is root-relative behind that (`join_eq`).

Joining is `join_path`, which goes over the pieces of a specifier from the directory of the importing file.

A slash in front changes neither the name of the file nor what its extension says (`ofPath_slash`).

On the way along a path, empty pieces and dots are passed over, and two dots lead back. Every other piece is
a name (`IsName`): it leads one step down. So what is reached from the root has names only between its
slashes (`isAbsolute_join`), and a path is reached by itself exactly if it has (`isAbsolute_slash_iff`).

A path may lead down and back up many times. In the end it has led some segments up from where it started and
then down along names, and how many and which depends on the path alone. From a place that is not deep enough
it leads to the root, so nothing is above that. The segments of a directory are taken as they are: its dots
stay, and only what a path brings are names.

* `pieces_eq_splitOn`, `unpieces_eq_intercalate`: cutting at slashes and joining with them undo each other.
* `walk_of_names`: names are kept on the way.
* `isName_walk`: nothing else is.
* `segments_joinChars`: the place that is reached is read back from a joined path, so paths can be followed one
  behind the other (`join_append_slash`).
* `walk_eq_take_append`: up, and then down.
* `join_composes`: what joining does, for every directory and every path.
-/

namespace Vitrine.Path

/-! ## Segments -/

/-- A piece that names something: not empty, and without slashes. -/
def IsSegment (piece : List Char) : Prop := piece ≠ [] ∧ '/' ∉ piece

theorem pieces_slash (path : List Char) : pieces ('/' :: path) = [] :: pieces path := by
  rw [pieces, if_pos rfl]

theorem slash_notMem_pieces (path : List Char) : ∀ p ∈ pieces path, '/' ∉ p := by
  induction path with
  | nil => simp [pieces]
  | cons c cs ih =>
    rw [pieces]
    by_cases hc : c = '/'
    · rw [if_pos hc, List.forall_mem_cons]
      exact ⟨List.not_mem_nil, ih⟩
    · rw [if_neg hc]
      cases hp : pieces cs with
      | nil => simpa using Ne.symm hc
      | cons p ps =>
        rw [hp, List.forall_mem_cons] at ih
        rw [List.forall_mem_cons, List.mem_cons, not_or]
        exact ⟨⟨Ne.symm hc, ih.1⟩, ih.2⟩

/-- The segments of a path are its pieces that are not empty. -/
theorem isSegment_of_mem_segments {path piece : List Char} (h : piece ∈ segments path) :
    IsSegment piece := by
  rw [segments, List.mem_filter] at h
  exact ⟨by simpa using h.2, slash_notMem_pieces path piece h.1⟩

/-- A step leads from segments to segments. -/
theorem isSegment_step {place : List (List Char)} {piece : List Char}
    (hplace : ∀ s ∈ place, IsSegment s) (hpiece : '/' ∉ piece) : ∀ s ∈ step place piece, IsSegment s := by
  unfold step
  split
  · exact hplace
  · rename_i hstay
    split
    · exact fun s hs => hplace s (List.dropLast_subset place hs)
    · intro s hs
      rcases List.mem_append.mp hs with hs | hs
      · exact hplace s hs
      · obtain rfl := List.mem_singleton.mp hs
        exact ⟨fun h => hstay (by simp [h]), hpiece⟩

theorem isSegment_walk {steps place : List (List Char)} (hplace : ∀ s ∈ place, IsSegment s)
    (hsteps : ∀ piece ∈ steps, '/' ∉ piece) : ∀ s ∈ steps.foldl step place, IsSegment s := by
  induction steps generalizing place with
  | nil => exact hplace
  | cons piece steps ih =>
    rw [List.forall_mem_cons] at hsteps
    exact ih (isSegment_step hplace hsteps.1) hsteps.2

/-- **A joined path is made of segments.** -/
theorem joinChars_eq (dir path : List Char) :
    ∃ ss, (∀ s ∈ ss, IsSegment s) ∧ joinChars dir path = ofSegments ss :=
  ⟨_, isSegment_walk (fun _ => isSegment_of_mem_segments) (slash_notMem_pieces path), rfl⟩

/-- A path of segments does not start with a slash. -/
theorem head?_unpieces {ss : List (List Char)} (h : ∀ s ∈ ss, IsSegment s) :
    (unpieces ss).head? ≠ some '/' := by
  cases ss with
  | nil => exact nofun
  | cons s ss =>
    obtain ⟨hne, hslash⟩ := h s List.mem_cons_self
    obtain ⟨c, cs, rfl⟩ := List.exists_cons_of_ne_nil hne
    have hc : c ≠ '/' := fun hc => hslash (hc ▸ List.mem_cons_self)
    cases ss <;> simpa [unpieces] using hc

/-- **A joined path has one slash in front.** -/
theorem join_eq (dir path : String) : ∃ p, IsRootRelative p ∧ join dir path = "/" ++ p := by
  obtain ⟨ss, hss, he⟩ := joinChars_eq dir.toList path.toList
  refine ⟨String.ofList (unpieces ss), ?_, ?_⟩
  · rw [IsRootRelative, String.toList_ofList]
    exact head?_unpieces hss
  · rw [join, he, ← String.toList_inj, String.toList_append]
    simp only [String.toList_ofList]
    rfl

theorem toList_slash (p : String) : ("/" ++ p).toList = '/' :: p.toList := by
  rw [String.toList_append]
  rfl

/-- One slash in front makes no difference to the path from the root. -/
theorem rootRelative_behind_slash (p : String) : rootRelative ("/" ++ p) = rootRelative p := by
  rw [rootRelative, rootRelative, toList_slash]
  rfl

theorem rootRelative_slash {p : String} (h : IsRootRelative p) : rootRelative ("/" ++ p) = p := by
  rw [rootRelative_behind_slash, rootRelative_of_isRootRelative h]

/-! ## Names of files -/

theorem fileName_slash (p : String) : fileName ("/" ++ p) = fileName p := by
  have htake : ∀ cs : List Char,
      (cs ++ ['/']).takeWhile (fun c : Char => c != '/') = cs.takeWhile (fun c : Char => c != '/') := by
    intro cs
    induction cs with
    | nil => rfl
    | cons c cs ih => by_cases hc : c = '/' <;> simp [hc, ih]
  have hlist : ("/" ++ p).toList.reverse = p.toList.reverse ++ ['/'] := by
    rw [String.toList_append, List.reverse_append]
    rfl
  rw [fileName, fileName, hlist, htake]

theorem extension_slash (p : String) : extension ("/" ++ p) = extension p := by
  rw [extension, extension, fileName_slash]

/-! ## Cutting and joining -/

/-- Cutting a path is splitting it at its slashes. -/
theorem pieces_eq_splitOn (path : List Char) : pieces path = path.splitOn '/' := by
  induction path with
  | nil => rfl
  | cons c cs ih =>
    rw [pieces, ih, List.splitOn_cons_eq_if_modifyHead]
    simp only [beq_iff_eq]
    split
    · rfl
    · cases hcs : cs.splitOn '/' with
      | nil => exact absurd hcs (List.splitOn_ne_nil _ _)
      | cons p ps => rfl

theorem pieces_ne_nil (path : List Char) : pieces path ≠ [] := by
  rw [pieces_eq_splitOn]
  exact List.splitOn_ne_nil _ _

theorem unpieces_eq_intercalate (ss : List (List Char)) : unpieces ss = List.intercalate ['/'] ss := by
  induction ss with
  | nil => rfl
  | cons p ps ih =>
    cases ps with
    | nil => rw [unpieces, List.intercalate_singleton]
    | cons q ps =>
      rw [unpieces, ih, List.intercalate_cons_cons, List.append_assoc]
      rfl

theorem unpieces_pieces (path : List Char) : unpieces (pieces path) = path := by
  rw [pieces_eq_splitOn, unpieces_eq_intercalate, List.intercalate_splitOn]

theorem pieces_unpieces {ss : List (List Char)} (h : ∀ s ∈ ss, '/' ∉ s) (hne : ss ≠ []) :
    pieces (unpieces ss) = ss := by
  rw [pieces_eq_splitOn, unpieces_eq_intercalate, List.splitOn_intercalate '/' h hne]

/-- At a slash the pieces of a path are those of its parts. -/
theorem pieces_append_slash (a b : List Char) : pieces (a ++ '/' :: b) = pieces a ++ pieces b := by
  induction a with
  | nil => exact pieces_slash b
  | cons c cs ih =>
    rw [List.cons_append, pieces, pieces, ih]
    by_cases hc : c = '/'
    · rw [if_pos hc, if_pos hc, List.cons_append]
    · obtain ⟨p, ps, hp⟩ := List.exists_cons_of_ne_nil (pieces_ne_nil cs)
      rw [if_neg hc, if_neg hc, hp]
      rfl

/-- A path that is made of segments has these segments. -/
theorem segments_ofSegments {ss : List (List Char)} (h : ∀ s ∈ ss, IsSegment s) :
    segments (ofSegments ss) = ss := by
  have hkept : ss.filter (!·.isEmpty) = ss :=
    List.filter_eq_self.mpr fun s hs => by simpa using (h s hs).1
  rw [segments, ofSegments, pieces_slash, List.filter_cons_of_neg (by simp)]
  by_cases hnil : ss = []
  · rw [hnil]
    rfl
  · rw [pieces_unpieces (fun s hs => (h s hs).2) hnil, hkept]

theorem unpieces_concat {ss : List (List Char)} (hne : ss ≠ []) (s : List Char) :
    unpieces (ss ++ [s]) = unpieces ss ++ '/' :: s := by
  induction ss with
  | nil => exact absurd rfl hne
  | cons p ps ih =>
    cases ps with
    | nil => rfl
    | cons q ps =>
      have hrest := ih (List.cons_ne_nil q ps)
      simp only [List.cons_append, unpieces, List.append_assoc] at hrest ⊢
      rw [hrest]

/-- What is put behind a path goes to its last piece. -/
theorem unpieces_concat_append (ss : List (List Char)) (s behind : List Char) :
    unpieces (ss ++ [s]) ++ behind = unpieces (ss ++ [s ++ behind]) := by
  cases ss with
  | nil => rfl
  | cons p ps =>
    rw [unpieces_concat (List.cons_ne_nil p ps), unpieces_concat (List.cons_ne_nil p ps), List.append_assoc,
      List.cons_append]

/-! ## Names -/

/-- A piece that leads one step down. -/
def IsName (piece : List Char) : Prop := piece ∉ [[], ['.'], ['.', '.']]

instance (piece : List Char) : Decidable (IsName piece) := inferInstanceAs (Decidable (_ ∉ _))

theorem step_of_isName {piece : List Char} (h : IsName piece) (place : List (List Char)) :
    step place piece = place ++ [piece] := by
  simp only [IsName, List.mem_cons, List.not_mem_nil, or_false, not_or] at h
  rw [step, if_neg (by simp [h.1, h.2.1]), if_neg h.2.2]

/-- A piece leads down by its name, stays, or leads up. -/
theorem step_cases (piece : List Char) :
    (IsName piece ∧ ∀ place, step place piece = place ++ [piece]) ∨ (∀ place, step place piece = place) ∨
      ∀ place, step place piece = place.dropLast := by
  by_cases hname : IsName piece
  · exact .inl ⟨hname, step_of_isName hname⟩
  · have hother : piece ∈ [[], ['.'], ['.', '.']] := Decidable.not_not.mp hname
    simp only [List.mem_cons, List.not_mem_nil, or_false] at hother
    rcases hother with rfl | rfl | rfl
    · exact .inr (.inl fun _ => rfl)
    · exact .inr (.inl fun _ => rfl)
    · exact .inr (.inr fun _ => rfl)

/-- **Names are kept** on the way. -/
theorem walk_of_names {steps : List (List Char)} (h : ∀ piece ∈ steps, IsName piece)
    (place : List (List Char)) : steps.foldl step place = place ++ steps := by
  induction steps generalizing place with
  | nil => rw [List.foldl_nil, List.append_nil]
  | cons piece steps ih =>
    rw [List.forall_mem_cons] at h
    rw [List.foldl_cons, step_of_isName h.1, ih h.2, List.append_assoc, List.singleton_append]

/-- A step leads from names to names: dots are not kept. -/
theorem isName_step {place : List (List Char)} (h : ∀ s ∈ place, IsName s) (piece : List Char) :
    ∀ s ∈ step place piece, IsName s := by
  rcases step_cases piece with ⟨hname, hdown⟩ | hstay | hup
  · rw [hdown]
    intro s hs
    rcases List.mem_append.mp hs with hs | hs
    · exact h s hs
    · obtain rfl := List.mem_singleton.mp hs
      exact hname
  · rw [hstay]
    exact h
  · rw [hup]
    exact fun s hs => h s (List.dropLast_subset place hs)

/-- **Nothing but names is kept** on the way. -/
theorem isName_walk {place : List (List Char)} (h : ∀ s ∈ place, IsName s) (steps : List (List Char)) :
    ∀ s ∈ steps.foldl step place, IsName s := by
  induction steps generalizing place with
  | nil => exact h
  | cons piece steps ih => exact ih (isName_step h piece)

/-! ## What is reached from the root -/

/-- A slash, and names with slashes between them. -/
def IsAbsolute (key : String) : Prop :=
  ∃ names, (∀ s ∈ names, IsName s ∧ '/' ∉ s) ∧ key.toList = ofSegments names

/-- What a path leads to from the root. -/
theorem isAbsolute_join (path : String) : IsAbsolute (join "" path) := by
  refine ⟨(pieces path.toList).foldl step [], fun s hs => ⟨?_, ?_⟩, ?_⟩
  · exact isName_walk (fun _ h => absurd h List.not_mem_nil) _ s hs
  · exact (isSegment_walk (fun _ h => absurd h List.not_mem_nil) (slash_notMem_pieces path.toList) s hs).2
  · rw [join, String.toList_ofList]
    rfl

/-- **A path from the root is absolute exactly if each of its pieces is a name.** -/
theorem isAbsolute_slash_iff {p : String} (hne : p ≠ "") :
    IsAbsolute ("/" ++ p) ↔ ∀ piece ∈ pieces p.toList, IsName piece := by
  constructor
  · rintro ⟨names, hnames, he⟩
    rw [toList_slash, ofSegments, List.cons.injEq] at he
    have hsome : names ≠ [] := by
      rintro rfl
      exact hne (String.toList_eq_nil_iff.mp he.2)
    rw [he.2, pieces_unpieces (fun s hs => (hnames s hs).2) hsome]
    exact fun piece hpiece => (hnames piece hpiece).1
  · intro hnames
    refine ⟨pieces p.toList, fun s hs => ⟨hnames s hs, slash_notMem_pieces _ s hs⟩, ?_⟩
    rw [toList_slash, ofSegments, unpieces_pieces]

/-- An absolute path leads to itself. -/
theorem join_of_names {p : String} (h : ∀ piece ∈ pieces p.toList, IsName piece) :
    join "" ("/" ++ p) = "/" ++ p := by
  have hempty : step [] [] = [] := rfl
  rw [join, joinChars, toList_slash, pieces_slash, List.foldl_cons]
  rw [show segments "".toList = [] from rfl, hempty, walk_of_names h, List.nil_append, ofSegments,
    unpieces_pieces, ← toList_slash, String.ofList_toList]

/-! ## Paths from the root -/

variable {key : String}

/-- A slash, and pieces of one kind with slashes between them. -/
def MadeOf (kind : List Char → Prop) (key : String) : Prop :=
  ∃ ss, (∀ s ∈ ss, kind s ∧ '/' ∉ s) ∧ key.toList = ofSegments ss

/-- An absolute path is made of names. -/
theorem isAbsolute_iff_madeOf : IsAbsolute key ↔ MadeOf IsName key := Iff.rfl

/-- A joined path is made of pieces that are not empty. -/
theorem madeOf_join (dir path : String) : MadeOf (· ≠ []) (join dir path) := by
  obtain ⟨ss, hss, he⟩ := joinChars_eq dir.toList path.toList
  exact ⟨ss, hss, by rw [join, String.toList_ofList, he]⟩

/-- A path is made of pieces of a kind exactly if what stands behind its slash is empty or has such pieces
only. -/
theorem madeOf_iff {kind : List Char → Prop} :
    MadeOf kind key ↔ ∃ p, key = "/" ++ p ∧ (p = "" ∨ ∀ piece ∈ pieces p.toList, kind piece) := by
  constructor
  · rintro ⟨ss, hss, he⟩
    refine ⟨String.ofList (unpieces ss), ?_, ?_⟩
    · rw [← String.toList_inj, toList_slash, String.toList_ofList, he, ofSegments]
    · rw [String.toList_ofList]
      by_cases hnone : ss = []
      · exact Or.inl (by rw [hnone]; rfl)
      · rw [pieces_unpieces (fun s hs => (hss s hs).2) hnone]
        exact Or.inr fun s hs => (hss s hs).1
  · rintro ⟨p, rfl, rfl | hp⟩
    · exact ⟨[], fun _ h => absurd h List.not_mem_nil, rfl⟩
    · refine ⟨pieces p.toList, fun s hs => ⟨hp s hs, slash_notMem_pieces _ s hs⟩, ?_⟩
      rw [toList_slash, ofSegments, unpieces_pieces]

/-- A kind of pieces that all names are of, but not the empty piece. A piece of the kind may be made longer by
two characters or more. -/
structure Lasting (kind : List Char → Prop) : Prop where
  empty : ¬ kind []
  name : ∀ {piece}, IsName piece → kind piece
  append : ∀ {piece behind}, kind piece → 2 ≤ behind.length → kind (piece ++ behind)

/-- A text of two characters or more makes a name of every name that it is put behind. -/
theorem lasting_isName : Lasting IsName where
  empty h := h List.mem_cons_self
  name h := h
  append {piece behind} h hlength hmem := by
    have hpos : 0 < piece.length := List.length_pos_iff.mpr fun hnil => h (by simp [hnil])
    have hshort : (piece ++ behind).length ≤ 2 := by
      simp only [List.mem_cons, List.not_mem_nil, or_false] at hmem
      rcases hmem with hmem | hmem | hmem <;> simp [hmem]
    rw [List.length_append] at hshort
    omega

/-- Not to be empty lasts: every step that is not empty is kept or taken back. -/
theorem lasting_ne_nil : Lasting (· ≠ []) where
  empty h := h rfl
  name h hnil := h (by simp [hnil])
  append h _ hnil := h (List.append_eq_nil_iff.mp hnil).1

variable {kind : List Char → Prop}

/-- The last piece may be made longer; the root gets a piece. -/
theorem MadeOf.append {behind : String} (h : MadeOf kind key) (hkind : Lasting kind)
    (hname : IsName behind.toList) (hlength : 2 ≤ behind.toList.length) (hslash : '/' ∉ behind.toList) :
    MadeOf kind (key ++ behind) := by
  obtain ⟨ss, hss, he⟩ := h
  have hlist : (key ++ behind).toList = '/' :: (unpieces ss ++ behind.toList) := by
    rw [String.toList_append, he, ofSegments, List.cons_append]
  rcases List.eq_nil_or_concat' ss with rfl | ⟨front, last, rfl⟩
  · refine ⟨[behind.toList], fun s hs => ?_, hlist⟩
    obtain rfl := List.mem_singleton.mp hs
    exact ⟨hkind.name hname, hslash⟩
  · rw [unpieces_concat_append] at hlist
    refine ⟨_, fun s hs => ?_, hlist⟩
    rcases List.mem_append.mp hs with hs | hs
    · exact hss s (List.mem_append_left _ hs)
    · obtain rfl := List.mem_singleton.mp hs
      obtain ⟨hlast, hno⟩ := hss last (by simp)
      exact ⟨hkind.append hlast hlength, fun hmem => (List.mem_append.mp hmem).elim hno hslash⟩

/-- A path from the root does not end in a slash, unless it is the root. -/
theorem ofSegments_eq_concat {ss : List (List Char)} (hempty : ¬ kind [])
    (h : ∀ s ∈ ss, kind s ∧ '/' ∉ s) (hne : ss ≠ []) :
    ∃ start c, ofSegments ss = start ++ [c] ∧ c ≠ '/' := by
  obtain ⟨front, last, rfl⟩ := (List.eq_nil_or_concat' ss).resolve_left hne
  obtain ⟨hlast, hno⟩ := h last (by simp)
  obtain ⟨start, c, rfl⟩ := (List.eq_nil_or_concat' last).resolve_left fun hnil => hempty (hnil ▸ hlast)
  refine ⟨ofSegments (front ++ [start]), c, ?_, fun hc => hno (by simp [hc])⟩
  rw [ofSegments, ofSegments, List.cons_append, unpieces_concat_append]

/-! ## Following one path behind the other -/

/-- The segments of a joined path are the place that is reached. -/
theorem segments_joinChars (dir path : List Char) :
    segments (joinChars dir path) = (pieces path).foldl step (segments dir) :=
  segments_ofSegments (isSegment_walk (fun _ => isSegment_of_mem_segments) (slash_notMem_pieces path))

theorem segments_join (dir path : String) :
    segments (join dir path).toList = (pieces path.toList).foldl step (segments dir.toList) := by
  rw [join, String.toList_ofList, segments_joinChars]

/-- A joined path depends on the segments of the directory and on the pieces of the path. -/
theorem join_congr {dir dir' path path' : String}
    (h : (pieces path.toList).foldl step (segments dir.toList) =
      (pieces path'.toList).foldl step (segments dir'.toList)) : join dir path = join dir' path' := by
  rw [join, join, joinChars, joinChars, h]

/-- **Following two paths with a slash between them is following one, then the other.** -/
theorem join_append_slash (dir a b : String) : join dir (a ++ "/" ++ b) = join (join dir a) b := by
  have htext : (a ++ "/" ++ b).toList = a.toList ++ '/' :: b.toList := by
    rw [String.append_assoc, String.toList_append, toList_slash]
  refine join_congr ?_
  rw [htext, pieces_append_slash, List.foldl_append, segments_join]

/-! ## Up and down -/

/-- **A path leads some segments up and then down**, by as many from every place, and down to what it leads to
from the root. -/
theorem walk_eq_take_append (steps : List (List Char)) :
    ∃ up, ∀ place, steps.foldl step place = place.take (place.length - up) ++ steps.foldl step [] := by
  induction steps using List.reverseRecOn with
  | nil => exact ⟨0, fun place => by simp⟩
  | append_singleton steps piece ih =>
    obtain ⟨up, ih⟩ := ih
    simp only [List.foldl_append, List.foldl_cons, List.foldl_nil]
    rcases step_cases piece with ⟨-, hdown⟩ | hstay | hup
    · refine ⟨up, fun place => ?_⟩
      rw [hdown, hdown, ih, List.append_assoc]
    · refine ⟨up, fun place => ?_⟩
      rw [hstay, hstay, ih]
    · -- Names that the path has brought are dropped first, then segments of the place.
      by_cases hnil : steps.foldl step [] = []
      · refine ⟨up + 1, fun place => ?_⟩
        rw [hup, hup, ih, hnil, List.append_nil, List.dropLast_nil, List.append_nil,
          List.dropLast_eq_take, List.take_take, List.length_take]
        congr 1
        omega
      · refine ⟨up, fun place => ?_⟩
        rw [hup, hup, ih, List.dropLast_append_of_ne_nil hnil]

/-! ## To the root -/

/-- The path that goes up `n` times. -/
def upward (n : Nat) : String := String.join (List.replicate n "../")

theorem pieces_upward_append (n : Nat) (rest : String) :
    pieces (upward n ++ rest).toList = List.replicate n ['.', '.'] ++ pieces rest.toList := by
  induction n with
  | zero => rfl
  | succ n ih =>
    have htext : (upward (n + 1) ++ rest).toList = ['.', '.'] ++ '/' :: (upward n ++ rest).toList := by
      rw [upward, List.replicate_succ, String.join_cons, String.append_assoc, String.toList_append]
      rfl
    rw [htext, pieces_append_slash, ih]
    rfl

theorem walk_upward {n : Nat} {place : List (List Char)} (h : place.length ≤ n) :
    (List.replicate n ['.', '.']).foldl step place = [] := by
  induction n generalizing place with
  | zero => exact List.length_eq_zero_iff.mp (Nat.le_zero.mp h)
  | succ n ih =>
    rw [List.replicate_succ, List.foldl_cons]
    refine ih ?_
    have hup : step place ['.', '.'] = place.dropLast := rfl
    rw [hup, List.length_dropLast]
    omega

/-- Going up often enough leads to the root. -/
theorem join_upward {dir : String} {n : Nat} (h : (segments dir.toList).length ≤ n) (rest : String) :
    join dir (upward n ++ rest) = join "" rest := by
  refine join_congr ?_
  rw [pieces_upward_append, List.foldl_append, walk_upward h]
  rfl

/-! ## Joined paths as a whole -/

/-- Names lead down from everywhere. -/
theorem segments_join_of_names {path : String} (h : ∀ piece ∈ pieces path.toList, IsName piece) (dir : String) :
    segments (join dir path).toList = segments dir.toList ++ pieces path.toList := by
  rw [segments_join, walk_of_names h]

/-- A joined path has the first segments of the directory, all but as many as the path leads up, and behind them
the names that it leads to from the root. -/
theorem exists_segments_join (path : String) : ∃ up, ∀ dir : String,
    segments (join dir path).toList =
      (segments dir.toList).take ((segments dir.toList).length - up) ++ segments (join "" path).toList := by
  obtain ⟨up, hup⟩ := walk_eq_take_append (pieces path.toList)
  refine ⟨up, fun dir => ?_⟩
  rw [segments_join, segments_join, hup]
  rfl

theorem isName_segments_join (path : String) : ∀ s ∈ segments (join "" path).toList, IsName s := by
  rw [segments_join]
  exact isName_walk (fun _ h => absurd h List.not_mem_nil) _

/-- Behind its slash a joined path has no slash in front, and no piece of it is empty. -/
theorem join_eq_slash (dir path : String) : ∃ p, join dir path = "/" ++ p ∧ IsRootRelative p ∧
    (p = "" ∨ [] ∉ pieces p.toList) := by
  obtain ⟨p, hp, hpieces⟩ := madeOf_iff.mp (madeOf_join dir path)
  obtain ⟨p', hroot, hp'⟩ := join_eq dir path
  obtain rfl : p = p' := by
    have htext := congrArg String.toList (hp.symm.trans hp')
    rw [toList_slash, toList_slash, List.cons.injEq, String.toList_inj] at htext
    exact htext.2
  exact ⟨p, hp, hroot, hpieces.imp_right fun h hempty => h [] hempty rfl⟩

/-- **Joining composes, and does not leave the root.** Following two paths is following one, then the other. A
joined path has one slash in front and no empty segment. Its segments are the first ones of the directory,
dots among them, and behind these are names: how many of the directory are left out, and which names come
behind, depends on the path alone, and names lead down. Going up at least as often as the directory has
segments leads to the root. -/
theorem join_composes :
    (∀ dir a b, join dir (a ++ "/" ++ b) = join (join dir a) b) ∧
    (∀ dir a, ∃ p, join dir a = "/" ++ p ∧ IsRootRelative p ∧ (p = "" ∨ [] ∉ pieces p.toList)) ∧
    (∀ a : String, (∀ s ∈ segments (join "" a).toList, IsName s) ∧ ∃ up, ∀ dir : String,
      segments (join dir a).toList =
        (segments dir.toList).take ((segments dir.toList).length - up) ++ segments (join "" a).toList) ∧
    (∀ dir a : String, (∀ piece ∈ pieces a.toList, IsName piece) →
      segments (join dir a).toList = segments dir.toList ++ pieces a.toList) ∧
    ∀ (dir rest : String) (n : Nat), (segments dir.toList).length ≤ n →
      join dir (upward n ++ rest) = join "" rest := by
  refine ⟨join_append_slash, join_eq_slash, fun a => ⟨isName_segments_join a, exists_segments_join a⟩, ?_, ?_⟩
  · exact fun dir a hnames => segments_join_of_names hnames dir
  · exact fun dir rest n hlength => join_upward hlength rest

/-- The dots of a directory stay in front of what is joined to it, and are left behind on the way to the
root. -/
theorem join_composes_dotted :
    (∀ piece ∈ pieces "lib/a.ts".toList, IsName piece) ∧
      segments (join "./src/../ui" "lib/a.ts").toList =
        [".", "src", "..", "ui", "lib", "a.ts"].map String.toList ∧
      (segments "./src/../ui".toList).length ≤ 5 ∧ join "./src/../ui" (upward 5 ++ "lib/./a.ts") = "/lib/a.ts" := by
  obtain ⟨-, -, -, hnames, hroot⟩ := join_composes
  have hpieces : ∀ piece ∈ pieces "lib/a.ts".toList, IsName piece := by decide
  have hlength : (segments "./src/../ui".toList).length ≤ 5 := by decide
  exact ⟨hpieces, (hnames _ _ hpieces).trans (by decide), hlength, (hroot _ _ _ hlength).trans (by decide)⟩

end Vitrine.Path

namespace Vitrine.FileKind

/-- A slash in front makes no difference to the kind of a file. -/
theorem ofPath_slash (settings : Settings) (p : String) :
    ofPath settings ("/" ++ p) = ofPath settings p := by
  rw [ofPath, ofPath, Path.extension_slash]

end Vitrine.FileKind
