import Vitrine.Proofs.Html.Reading
import Vitrine.Proofs.Html.Tag

/-!
# The tokens of a written document (sections 4.6 and 4.8)

`tokens` gives the tokens that a document is read into, with the state of the tree deciding how each piece is
read. A document that is written as text and tags in turn is read into just these: text gives its characters,
and a tag gives itself, whatever the text is, as long as no `<` stands in it.

`diagnostic_document` and `to_iframe_html` write such documents, with texts from outside through `escape_html`.

* `Construction.readPiece_tokens`: a piece is taken in as these tokens.
* `Construction.takes_mark`: what one tag or raw element gives, in any state that reads markup.
* `tokens_written`: the tokens of a document as a whole.
-/

namespace Vitrine.Html

/-! ## Tokens -/

/-- How text is read once the next piece is taken. -/
def Reading.next : Reading → Reading
  | .plain => .plain
  | _ => .markup

namespace Construction

/-- Whether sections are read, as they are inside foreign elements. -/
def readsSections (s : Construction) : Bool :=
  match s.current? with
  | some e => e.name.vocabulary ≠ .html
  | none => false

/-- The tokens of the next piece. -/
def nextTokens (s : Construction) (text : List Char) : List Token :=
  match s.reading with
  | .markup => (Lexer.piece s.readsSections text).1
  | .raw tag references =>
    let content := (Lexer.rawText tag.toList text).1
    (if references then Reference.decode false content else content).map .character
  | .script => (Lexer.scriptText (.text .plain) text).1.map .character
  | .plain => text.map fun c => .character (Lexer.shown c)

/-- The tokens of all pieces, with fuel for their number. -/
def tokensFrom : Nat → Construction → List Char → List Token
  | 0, _, _ => []
  | n + 1, s, text =>
    if text.isEmpty then [] else s.nextTokens text ++ tokensFrom n (s.readPiece text).1 (s.readPiece text).2

end Construction

/-- The tokens that a document is read into. -/
def tokens (text : String) : List Token :=
  let cs := lineFeeds (withoutMark text.toList)
  Construction.tokensFrom (2 * cs.length + 1) {} cs

namespace Construction

variable {s s' s'' : Construction}

/-- **A piece is taken in as its tokens.** -/
theorem readPiece_tokens (s : Construction) (text : List Char) :
    (s.readPiece text).1 = takeAll { s with reading := s.reading.next } (s.nextTokens text) := by
  obtain ⟨_, _, _, _, _, _, _, _, _, _, _, _, _, reading, _⟩ := s
  cases reading <;> rfl

/-! ### Pieces of markup -/

/-- `k` pieces of the text `a` give the tokens `ts` and lead to the state `s'` with the text `b`. -/
def Takes (k : Nat) (s : Construction) (a : List Char) (ts : List Token) (s' : Construction) (b : List Char) :
    Prop :=
  ∀ n, tokensFrom (n + k) s a = ts ++ tokensFrom n s' b

theorem Takes.refl (s : Construction) (a : List Char) : Takes 0 s a [] s a := fun _ => rfl

theorem Takes.trans {j k : Nat} {a b c : List Char} {ts us : List Token} (h : Takes j s a ts s' b)
    (h' : Takes k s' b us s'' c) : Takes (j + k) s a (ts ++ us) s'' c := fun n => by
  rw [Nat.add_comm j k, ← Nat.add_assoc, h (n + k), h' n, List.append_assoc]

/-- Whether a piece is the end tag of a script. -/
def endsScript : List Token → Bool
  | [.endTag tag] => tag.name = "script"
  | _ => false

/-- A piece of markup is what the lexer makes of it, given whether sections may stand here. -/
theorem readPiece_markup (hs : s.reading = .markup) (text : List Char) :
    s.readPiece text =
      let piece := Lexer.piece s.readsSections text
      (s.takeAll piece.1,
        if s.mode = .text && endsScript piece.1 then withoutMark piece.2 else piece.2) := by
  rw [readPiece, hs]
  rfl

/-- A piece of markup, unless it ends a script. -/
theorem takes_piece {a b : List Char} {ts : List Token} (ha : a ≠ []) (hs : s.reading = .markup)
    (hpiece : Lexer.piece s.readsSections a = (ts, b)) (hts : endsScript ts = false) :
    Takes 1 s a ts (s.takeAll ts) b := by
  intro n
  have hnext : s.nextTokens a = ts := by rw [nextTokens, hs, hpiece]
  have hread : s.readPiece a = (s.takeAll ts, b) := by
    rw [readPiece_markup hs, hpiece]
    simp [hts]
  rw [tokensFrom, if_neg (by simpa using ha), hnext, hread]

theorem characters_not_start {cs : List Char} : ∀ t ∈ cs.map Token.character, ∀ tag, t ≠ .startTag tag := by
  intro t ht tag
  obtain ⟨c, -, rfl⟩ := List.mem_map.mp ht
  nofun

theorem endsScript_characters (cs : List Char) : endsScript (cs.map .character) = false := by
  cases cs <;> rfl

/-- Text without `<` is read as its characters, up to the next `<`. -/
theorem takes_text {raw : List Char} (hraw : '<' ∉ raw) (hs : s.reading = .markup) (rest : List Char) :
    ∃ k ≤ 1, ∃ s', s'.reading = .markup ∧
      Takes k s (raw ++ '<' :: rest) ((Reference.decode false raw).map .character) s' ('<' :: rest) := by
  by_cases hne : raw = []
  · subst hne
    exact ⟨0, Nat.zero_le 1, s, hs, .refl s _⟩
  · refine ⟨1, le_rfl, _, ?_, takes_piece (by simp) hs (Lexer.piece_text hraw hne _ rest)
      (endsScript_characters _)⟩
    rw [takeAll, reading_takeAll characters_not_start, hs]

end Construction

/-! ## Written documents -/

/-- A tag, or an element whose content is no markup, as it is written. -/
inductive Mark where
  | opening (name : List Char) (attributes : List (List Char × List Char))
  | closing (name : List Char)
  | raw (name : List Char) (attributes : List (List Char × List Char)) (content : List Char)

namespace Mark

/-- Behind the `<`. -/
def behind : Mark → List Char
  | opening name attributes => Lexer.openingText name attributes
  | closing name => '/' :: Lexer.closingText name
  | raw name attributes content =>
    Lexer.openingText name attributes ++ content ++ '<' :: '/' :: Lexer.closingText name

/-- A part between texts starts with a bracket. -/
def written (m : Mark) : List Char := '<' :: m.behind

/-- The tokens that a part between texts is read into. -/
def tokens : Mark → List Token
  | opening name attributes => [.startTag (Lexer.openingTag name attributes)]
  | closing name => [.endTag (Lexer.closingTag name)]
  | raw name attributes content =>
    .startTag (Lexer.openingTag name attributes) :: content.map .character ++ [.endTag (Lexer.closingTag name)]

/-- The tags of a mark. -/
def tags : Mark → List Token
  | opening name attributes => [.startTag (Lexer.openingTag name attributes)]
  | closing name => [.endTag (Lexer.closingTag name)]
  | raw name attributes _ => [.startTag (Lexer.openingTag name attributes), .endTag (Lexer.closingTag name)]

/-- The names and values can be read, and the content of an element is taken for what its name says: for markup,
or for text that stands for itself. -/
def IsReadable : Mark → Prop
  | opening name attributes =>
    Lexer.IsName name ∧ Lexer.AreAttributes attributes ∧ rawReading? (String.ofList name) = none
  | closing name => Lexer.IsName name ∧ String.ofList name ≠ "script"
  | raw name attributes content =>
    Lexer.IsName name ∧ Lexer.AreAttributes attributes ∧
      (∃ references, rawReading? (String.ofList name) = some (.raw (String.ofList name) references)) ∧
      ∀ c ∈ content, c ≠ '<' ∧ c ≠ '&' ∧ c ≠ '\x00'

end Mark

/-- A start tag or an end tag. -/
def Token.isTag : Token → Bool
  | startTag _ => true
  | endTag _ => true
  | _ => false

theorem filter_isTag_characters (cs : List Char) : (cs.map Token.character).filter Token.isTag = [] := by
  rw [List.filter_eq_nil_iff, List.forall_mem_map]
  exact fun _ _ => Bool.false_ne_true

theorem Mark.filter_isTag (m : Mark) : m.tokens.filter Token.isTag = m.tags := by
  cases m with
  | opening | closing => rfl
  | raw name attributes content =>
    rw [tokens, List.cons_append, List.filter_cons_of_pos rfl, List.filter_append, filter_isTag_characters]
    rfl

/-- Text without references stands for itself. -/
theorem Reference.decode_plain {inAttribute : Bool} {text : List Char} (h : '&' ∉ text) :
    Reference.decode inAttribute text = text := by
  rw [Reference.decode]
  induction text with
  | nil => rfl
  | cons c text ih =>
    rw [List.mem_cons, not_or] at h
    rw [Reference.decodeFrom, if_neg (Ne.symm h.1), ih h.2]

namespace Construction

variable {s : Construction} {name : List Char} {attributes : List (List Char × List Char)}

/-- A start tag is read, and leads to markup or to what its name says. -/
theorem takes_opening (hname : Lexer.IsName name) (h : Lexer.AreAttributes attributes)
    (hs : s.reading = .markup) (rest : List Char) :
    ∃ s', (s'.reading = .markup ∨ rawReading? (String.ofList name) = some s'.reading) ∧
      Takes 1 s ('<' :: Lexer.openingText name attributes ++ rest)
        [.startTag (Lexer.openingTag name attributes)] s' rest := by
  refine ⟨_, ?_, takes_piece (by simp) hs (Lexer.piece_opening hname h _ rest) rfl⟩
  rcases readsOn_take s (.startTag (Lexer.openingTag name attributes)) with hsame | ⟨tag, htag, hraw⟩
  · exact .inl (hsame.trans hs)
  · obtain rfl := Token.startTag.inj htag
    exact .inr hraw

theorem takes_closing (hname : Lexer.IsName name) (hscript : String.ofList name ≠ "script")
    (hs : s.reading = .markup) (rest : List Char) :
    ∃ s', s'.reading = .markup ∧
      Takes 1 s ('<' :: '/' :: Lexer.closingText name ++ rest) [.endTag (Lexer.closingTag name)] s' rest := by
  have hsame := (readsOn_take s (.endTag (Lexer.closingTag name))).eq_of_not_start fun _ => nofun
  exact ⟨_, hsame.trans hs, takes_piece (by simp) hs (Lexer.piece_closing hname _ rest) (decide_eq_false hscript)⟩

/-- The content of a raw element, behind its start tag. -/
theorem takes_content {content : List Char} (hname : Lexer.IsName name)
    (hcontent : ∀ c ∈ content, c ≠ '<' ∧ c ≠ '&' ∧ c ≠ '\x00')
    (hs : s.reading = .markup ∨ ∃ references, s.reading = .raw (String.ofList name) references)
    (rest : List Char) :
    ∃ k ≤ 1, ∃ s', s'.reading = .markup ∧
      Takes k s (content ++ ('<' :: '/' :: Lexer.closingText name ++ rest)) (content.map .character) s'
        ('<' :: '/' :: Lexer.closingText name ++ rest) := by
  have hless : '<' ∉ content := fun h => (hcontent _ h).1 rfl
  have hand : '&' ∉ content := fun h => (hcontent _ h).2.1 rfl
  have hshown := Lexer.map_shown fun h => (hcontent _ h).2.2 rfl
  rcases hs with hs | ⟨references, hs⟩
  · have htext := takes_text hless hs ('/' :: Lexer.closingText name ++ rest)
    rwa [Reference.decode_plain hand] at htext
  · -- the content is one piece, even if it is empty
    have hraw := Lexer.rawText_closing hname hless rest
    have hdecoded : (if references then Reference.decode false content else content) = content := by
      rw [Reference.decode_plain hand, ite_self]
    refine ⟨1, le_rfl, { s with reading := .markup }.takeAll (content.map .character),
      reading_takeAll characters_not_start _, fun n => ?_⟩
    have hnext : s.nextTokens (content ++ ('<' :: '/' :: Lexer.closingText name ++ rest)) =
        content.map .character := by
      rw [nextTokens, hs]
      simp only [String.toList_ofList, hraw, hshown, hdecoded]
    have hread : s.readPiece (content ++ ('<' :: '/' :: Lexer.closingText name ++ rest)) =
        ({ s with reading := .markup }.takeAll (content.map .character),
          '<' :: '/' :: Lexer.closingText name ++ rest) := by
      rw [readPiece, hs]
      simp only [String.toList_ofList, hraw, hshown, hdecoded]
    rw [tokensFrom, if_neg (by simp), hnext, hread]

/-- A tag or a raw element gives its tokens, and markup is read behind it. -/
theorem takes_mark {m : Mark} (hm : m.IsReadable) (hs : s.reading = .markup) (rest : List Char) :
    ∃ k ≤ 3, ∃ s', s'.reading = .markup ∧ Takes k s (m.written ++ rest) m.tokens s' rest := by
  cases m with
  | opening name attributes =>
    obtain ⟨hname, hattributes, hraw⟩ := hm
    obtain ⟨s', hs', htakes⟩ := takes_opening hname hattributes hs rest
    rw [hraw, or_iff_left nofun] at hs'
    exact ⟨1, by decide, s', hs', htakes⟩
  | closing name =>
    obtain ⟨s', hs', htakes⟩ := takes_closing hm.1 hm.2 hs rest
    exact ⟨1, by decide, s', hs', htakes⟩
  | raw name attributes content =>
    obtain ⟨hname, hattributes, ⟨references, hraw⟩, hcontent⟩ := hm
    have hscript : String.ofList name ≠ "script" := fun he => by
      rw [he] at hraw
      cases hraw
    obtain ⟨s₁, hs₁, hopen⟩ :=
      takes_opening hname hattributes hs (content ++ ('<' :: '/' :: Lexer.closingText name ++ rest))
    have hs₁ : s₁.reading = .markup ∨ ∃ references, s₁.reading = .raw (String.ofList name) references :=
      hs₁.imp_right fun h => ⟨references, Option.some.inj (h.symm.trans hraw)⟩
    obtain ⟨k, hk, s₂, hs₂, hmiddle⟩ := takes_content hname hcontent hs₁ rest
    obtain ⟨s₃, hs₃, hclose⟩ := takes_closing hname hscript hs₂ rest
    refine ⟨1 + k + 1, by omega, s₃, hs₃, ?_⟩
    have htakes := (hopen.trans hmiddle).trans hclose
    simpa [Mark.written, Mark.behind, Mark.tokens] using htakes

end Construction

/-- A document of text and marks in turn. -/
def writtenAll (doc : List (List Char × Mark)) : List Char := doc.flatMap fun p => p.1 ++ p.2.written

/-- What it stands for. -/
def tokensAll (doc : List (List Char × Mark)) : List Token :=
  doc.flatMap fun p => (Reference.decode false p.1).map .character ++ p.2.tokens

/-- All marks can be read, and no text begins a tag. -/
def AreReadable (doc : List (List Char × Mark)) : Prop := ∀ p ∈ doc, '<' ∉ p.1 ∧ p.2.IsReadable

theorem Construction.takes_written {doc : List (List Char × Mark)} (hdoc : AreReadable doc) {s : Construction}
    (hs : s.reading = .markup) :
    ∃ k ≤ 4 * doc.length, ∃ s', Takes k s (writtenAll doc) (tokensAll doc) s' [] := by
  induction doc generalizing s with
  | nil => exact ⟨0, le_rfl, s, .refl s []⟩
  | cons p doc ih =>
    obtain ⟨⟨hless, hmark⟩, hdoc⟩ := List.forall_mem_cons.mp hdoc
    obtain ⟨j, hj, s₁, hs₁, htext⟩ := takes_text hless hs (p.2.behind ++ writtenAll doc)
    obtain ⟨k, hk, s₂, hs₂, hmark⟩ := takes_mark hmark hs₁ (writtenAll doc)
    obtain ⟨l, hl, s₃, hrest⟩ := ih hdoc hs₂
    refine ⟨j + k + l, by rw [List.length_cons]; omega, s₃, ?_⟩
    have htakes := (htext.trans hmark).trans hrest
    simpa [writtenAll, tokensAll, Mark.written] using htakes

/-- Each part is written with two characters or more, so there is fuel enough. -/
theorem length_le_written (doc : List (List Char × Mark)) : 2 * doc.length ≤ (writtenAll doc).length := by
  have hmark (m : Mark) : 2 ≤ m.written.length := by
    cases m <;> simp [Mark.written, Mark.behind, Lexer.openingText] <;> omega
  induction doc with
  | nil => exact le_rfl
  | cons p doc ih =>
    have hp := hmark p.2
    simp only [writtenAll, List.flatMap_cons, List.length_append, List.length_cons] at ih ⊢
    omega

/-! ## Line ends -/

/-- A character that belongs to no line end parts the text. -/
theorem lineFeeds_append_cons {d : Char} (hreturn : d ≠ '\r') (hfeed : d ≠ '\n') (a b : List Char) :
    lineFeeds (a ++ d :: b) = lineFeeds a ++ d :: lineFeeds b := by
  have hclear : '\r' ∉ [d] := List.mem_singleton.not.mpr hreturn.symm
  have hself : lineFeeds (d :: b) = d :: lineFeeds b := lineFeeds_append hclear b
  induction a using lineFeeds.induct with
  | case1 cs ih => rw [List.cons_append, List.cons_append, lineFeeds, lineFeeds, ih, List.cons_append]
  | case2 cs hcs ih =>
    rw [List.cons_append, lineFeeds, lineFeeds, ih, List.cons_append]
    · exact hcs
    · intro cs' he
      cases cs with
      | nil => exact hfeed (List.cons.inj he).1
      | cons c cs => exact hcs cs (by rw [(List.cons.inj he).1])
  | case3 c cs _ hc ih =>
    have hclear : '\r' ∉ [c] := List.mem_singleton.not.mpr fun he => hc he.symm
    have hc (text : List Char) : lineFeeds (c :: text) = c :: lineFeeds text :=
      lineFeeds_append hclear text
    rw [List.cons_append, hc, hc, ih, List.cons_append]
  | case4 => exact hself

/-- Line ends are the only characters that are put in. -/
theorem mem_lineFeeds {c : Char} {text : List Char} (h : c ∈ lineFeeds text) : c = '\n' ∨ c ∈ text := by
  induction text using lineFeeds.induct with
  | case1 cs ih =>
    rw [lineFeeds, List.mem_cons] at h
    exact h.imp_right fun h => (ih h).elim (· ▸ List.mem_cons_of_mem _ List.mem_cons_self) fun h =>
      List.mem_cons_of_mem _ (List.mem_cons_of_mem _ h)
  | case2 cs hcs ih =>
    rw [lineFeeds, List.mem_cons] at h
    · rcases h with h | h
      · exact .inl h
      · exact (ih h).imp_right (List.mem_cons_of_mem _)
    · exact hcs
  | case3 d cs _ hd ih =>
    rw [lineFeeds, List.mem_cons] at h
    · rcases h with rfl | h
      · exact .inr List.mem_cons_self
      · exact (ih h).imp_right (List.mem_cons_of_mem _)
    · exact fun _ he => absurd he hd
    · exact hd
  | case4 => exact absurd h List.not_mem_nil

/-- An attribute with its line ends as line feeds. -/
def fedAttribute (a : List Char × List Char) : List Char × List Char := (a.1, lineFeeds a.2)

/-- A mark with its line ends as line feeds. -/
def Mark.fed : Mark → Mark
  | opening name attributes => opening name (attributes.map fedAttribute)
  | closing name => closing name
  | raw name attributes content => raw name (attributes.map fedAttribute) (lineFeeds content)

/-- A document with its line ends as line feeds. -/
def fedAll (doc : List (List Char × Mark)) : List (List Char × Mark) :=
  doc.map fun p => (lineFeeds p.1, p.2.fed)

theorem Lexer.IsName.clear {name : List Char} (h : IsName name) : '\r' ∉ name := fun hmem =>
  absurd (List.all_eq_true.mp h.2 _ hmem) (by decide)

theorem Lexer.AreAttributes.fed {attributes : List (List Char × List Char)} (h : AreAttributes attributes) :
    AreAttributes (attributes.map fedAttribute) where
  names := List.forall_mem_map.mpr h.names
  nodup := by
    rw [List.map_map]
    exact h.nodup
  values := List.forall_mem_map.mpr fun a ha hmem =>
    (mem_lineFeeds hmem).elim (by decide) (h.values a ha)

/-- Line ends of a tag stand in the values of its attributes. -/
theorem lineFeeds_attributes {attributes : List (List Char × List Char)}
    (h : ∀ a ∈ attributes, Lexer.IsName a.1) (rest : List Char) :
    lineFeeds (attributes.flatMap Lexer.attributeText ++ rest) =
      (attributes.map fedAttribute).flatMap Lexer.attributeText ++ lineFeeds rest := by
  induction attributes with
  | nil => rfl
  | cons a attributes ih =>
    obtain ⟨hname, hnames⟩ := List.forall_mem_cons.mp h
    have hclear : '\r' ∉ ' ' :: a.1 ++ ['=', '"'] := by simpa using hname.clear
    have hvalue := lineFeeds_append_cons (d := '"') (by decide) (by decide) a.2
      (attributes.flatMap Lexer.attributeText ++ rest)
    have hattribute := lineFeeds_append hclear
      (a.2 ++ '"' :: (attributes.flatMap Lexer.attributeText ++ rest))
    rw [hvalue, ih hnames] at hattribute
    simpa [Lexer.attributeText, fedAttribute] using hattribute

theorem lineFeeds_opening {name : List Char} {attributes : List (List Char × List Char)}
    (hname : Lexer.IsName name) (h : ∀ a ∈ attributes, Lexer.IsName a.1) (rest : List Char) :
    lineFeeds (Lexer.openingText name attributes ++ rest) =
      Lexer.openingText name (attributes.map fedAttribute) ++ lineFeeds rest := by
  have hend := lineFeeds_append (show '\r' ∉ ['>'] by decide) rest
  have htext := lineFeeds_attributes h ('>' :: rest)
  rw [List.singleton_append] at hend
  rw [hend] at htext
  have hall := lineFeeds_append hname.clear (attributes.flatMap Lexer.attributeText ++ '>' :: rest)
  rw [htext] at hall
  simpa [Lexer.openingText] using hall

theorem lineFeeds_closing {name : List Char} (hname : Lexer.IsName name) (rest : List Char) :
    lineFeeds ('/' :: Lexer.closingText name ++ rest) = '/' :: Lexer.closingText name ++ lineFeeds rest :=
  lineFeeds_append (by simpa [Lexer.closingText] using hname.clear) rest

/-- Line ends of a part stand in its values or in its content. -/
theorem lineFeeds_mark {m : Mark} (hm : m.IsReadable) (rest : List Char) :
    lineFeeds (m.behind ++ rest) = m.fed.behind ++ lineFeeds rest := by
  cases m with
  | opening name attributes => exact lineFeeds_opening hm.1 hm.2.1.names rest
  | closing name => exact lineFeeds_closing hm.1 rest
  | raw name attributes content =>
    have hcontent := lineFeeds_append_cons (d := '<') (by decide) (by decide) content
      ('/' :: Lexer.closingText name ++ rest)
    have hopening := lineFeeds_opening hm.1 hm.2.1.names
      (content ++ '<' :: ('/' :: Lexer.closingText name ++ rest))
    rw [hcontent, lineFeeds_closing hm.1] at hopening
    simpa [Mark.behind, Mark.fed] using hopening

theorem lineFeeds_writtenAll {doc : List (List Char × Mark)} (hdoc : AreReadable doc) :
    lineFeeds (writtenAll doc) = writtenAll (fedAll doc) := by
  induction doc with
  | nil => rfl
  | cons p doc ih =>
    obtain ⟨⟨-, hmark⟩, hdoc⟩ := List.forall_mem_cons.mp hdoc
    have htext := lineFeeds_append_cons (d := '<') (by decide) (by decide) p.1 (p.2.behind ++ writtenAll doc)
    rw [lineFeeds_mark hmark, ih hdoc] at htext
    simpa [writtenAll, fedAll, Mark.written] using htext

theorem Mark.IsReadable.fed {m : Mark} (hm : m.IsReadable) : m.fed.IsReadable := by
  cases m with
  | opening name attributes => exact ⟨hm.1, hm.2.1.fed, hm.2.2⟩
  | closing name => exact hm
  | raw name attributes content =>
    refine ⟨hm.1, hm.2.1.fed, hm.2.2.1, fun c hc => ?_⟩
    rcases mem_lineFeeds hc with rfl | hc
    · decide
    · exact hm.2.2.2 c hc

theorem AreReadable.fed {doc : List (List Char × Mark)} (hdoc : AreReadable doc) : AreReadable (fedAll doc) :=
  List.forall_mem_map.mpr fun p hp =>
    ⟨fun hmem => (mem_lineFeeds hmem).elim (by decide) (hdoc p hp).1, (hdoc p hp).2.fed⟩

/-! ## Reading a document -/

/-- **A written document is read as it is written**, with each line end as a line feed. -/
theorem tokens_written {doc : List (List Char × Mark)} (hdoc : AreReadable doc) {text : String}
    (htext : text.toList = writtenAll doc) (hfirst : text.toList.head? = some '<') :
    tokens text = tokensAll (fedAll doc) := by
  have hmark : withoutMark text.toList = text.toList := by
    rw [withoutMark]
    exact fun cs he => absurd (Option.some.inj (he ▸ hfirst)) (by decide)
  have hlines : lineFeeds (withoutMark text.toList) = writtenAll (fedAll doc) := by
    rw [hmark, htext, lineFeeds_writtenAll hdoc]
  obtain ⟨k, hk, s, htakes⟩ := Construction.takes_written hdoc.fed (s := {}) rfl
  have hlength := length_le_written (fedAll doc)
  have hend (n : Nat) (s : Construction) : s.tokensFrom n [] = [] := by cases n <;> rfl
  have hfuel : 2 * (writtenAll (fedAll doc)).length + 1 =
      2 * (writtenAll (fedAll doc)).length + 1 - k + k := by omega
  rw [tokens, hlines, hfuel, htakes, hend, List.append_nil]

end Vitrine.Html
