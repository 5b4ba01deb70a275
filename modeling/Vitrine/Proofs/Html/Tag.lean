import Mathlib
import Vitrine.Html.Parse

/-!
# A tag is read as it is written (sections 4.6 and 4.8)

A tag that is written with names in small letters and with values between double quotes is read back: the
name, and each attribute with the value that its text stands for. Only the double quote ends a value, so
whatever else is in a value stays in it.

`to_iframe_html`, `diagnostic_document` and `create_script` write such tags.

* `tag?_written`: the tag and what stands behind it.
* `piece_opening`, `piece_closing`: the same for the tokens that a text begins with.
* `rawText_closing`: the content of a raw element ends at the first end tag.
-/

namespace Vitrine.Html

/-! ## Text that is read as it stands -/

/-- Without carriage returns no line ends change. -/
theorem lineFeeds_append {text : List Char} (h : '\r' ∉ text) (rest : List Char) :
    lineFeeds (text ++ rest) = text ++ lineFeeds rest := by
  induction text with
  | nil => rfl
  | cons c text ih =>
    have hc : c ≠ '\r' := fun hc => h (hc ▸ List.mem_cons_self)
    rw [List.cons_append, lineFeeds, ih (List.not_mem_of_not_mem_cons h), List.cons_append]
    · exact fun _ hreturn _ => hc hreturn
    · exact hc

namespace Lexer

theorem map_shown {text : List Char} (h : '\x00' ∉ text) : text.map shown = text := by
  have hshown : ∀ c ∈ text, shown c = id c := fun c hc => if_neg fun hzero : c = '\x00' => h (hzero ▸ hc)
  rw [List.map_congr_left hshown, List.map_id]

/-! ## Names -/

/-- The characters of names: small letters, digits and the dash. -/
def isNameChar (c : Char) : Bool := c.isLower || c.isDigit || c = '-'

/-- A name that is written in small letters and begins with one. -/
def IsName (name : List Char) : Prop := name.head?.any Char.isLower = true ∧ name.all isNameChar = true

instance (name : List Char) : Decidable (IsName name) := inferInstanceAs (Decidable (_ ∧ _))

theorem isNameChar_ne {c d : Char} (hc : isNameChar c = true) (hd : isNameChar d = false) : c ≠ d := by
  rintro rfl
  rw [hc] at hd
  cases hd

theorem isSpace_of_isNameChar {c : Char} (hc : isNameChar c = true) : isSpace c = false := by
  have hne := fun d => @isNameChar_ne c d hc
  simp [isSpace, hne ' ' (by decide), hne '\n' (by decide), hne '\t' (by decide), hne '\x0c' (by decide)]

theorem toLower_of_isNameChar {c : Char} (hc : isNameChar c = true) : c.toLower = c := by
  refine Char.toLower_eq_of_not_isUpper fun hupper => ?_
  simp only [isNameChar, Char.isLower, Char.isDigit, Char.isUpper, Bool.or_eq_true, Bool.and_eq_true,
    decide_eq_true_eq, UInt32.le_iff_toNat_le, ge_iff_le] at hc hupper
  have hbounds : 65 ≤ c.val.toNat ∧ c.val.toNat ≤ 90 := hupper
  have hcases : (97 ≤ c.val.toNat ∧ c.val.toNat ≤ 122 ∨ 48 ≤ c.val.toNat ∧ c.val.toNat ≤ 57) ∨ c = '-' := hc
  rcases hcases with hcases | rfl
  · omega
  · exact absurd hbounds (by decide)

theorem shown_of_isNameChar {c : Char} (hc : isNameChar c = true) : shown c = c :=
  if_neg (isNameChar_ne hc (by decide))

/-! ## What is written -/

/-- An attribute: its name, and its value between double quotes. -/
def attributeText (a : List Char × List Char) : List Char := ' ' :: a.1 ++ '=' :: '"' :: a.2 ++ ['"']

/-- A start tag behind its `<`. -/
def openingText (name : List Char) (attributes : List (List Char × List Char)) : List Char :=
  name ++ attributes.flatMap attributeText ++ ['>']

/-- The attribute that such a text stands for. -/
def attributeRead (a : List Char × List Char) : Attribute :=
  ⟨.plain, String.ofList a.1, String.ofList (Reference.decode true (a.2.map shown))⟩

/-- The tag that such a text stands for. -/
def openingTag (name : List Char) (attributes : List (List Char × List Char)) : Tag :=
  { name := String.ofList name, attributes := attributes.map attributeRead }

/-- The names of the attributes are different names, and no value holds the quote that ends it. -/
structure AreAttributes (attributes : List (List Char × List Char)) : Prop where
  names : ∀ a ∈ attributes, IsName a.1
  nodup : (attributes.map Prod.fst).Nodup
  values : ∀ a ∈ attributes, '"' ∉ a.2

theorem AreAttributes.nil : AreAttributes [] := ⟨nofun, List.nodup_nil, nofun⟩

/-! ## Reading -/

namespace Draft

theorem read_cons {d : Draft} {c : Char} (h : (d.step c).phase ≠ .complete) (cs : List Char) :
    d.read (c :: cs) = (d.step c).read cs := by
  rw [read]
  exact if_neg h

/-- A text each of whose characters is only put in front of those that the draft has already. -/
theorem read_kept (draft : List Char → Draft) (g : Char → Char) {text : List Char}
    (hstep : ∀ c ∈ text, ∀ done, (draft done).step c = draft (g c :: done))
    (hgoes : ∀ done, (draft done).phase ≠ .complete) (done rest : List Char) :
    (draft done).read (text ++ rest) = (draft ((text.map g).reverse ++ done)).read rest := by
  induction text generalizing done with
  | nil => rfl
  | cons c text ih =>
    rw [List.forall_mem_cons] at hstep
    rw [List.cons_append, read_cons (hstep.1 done ▸ hgoes _), hstep.1, ih hstep.2]
    simp

/-- The name of a tag is kept. -/
theorem read_name {name : List Char} (hname : name.all isNameChar = true) (d : Draft) (hd : d.phase = .name)
    (rest : List Char) : d.read (name ++ rest) = { d with name := name.reverse ++ d.name }.read rest := by
  have hstep : ∀ c ∈ name, ∀ done, Draft.step { d with name := done } c = { d with name := id c :: done } := by
    intro c hmem done
    have hc := List.all_eq_true.mp hname c hmem
    simp [step, hd, isSpace_of_isNameChar hc, isNameChar_ne hc (d := '/') (by decide),
      isNameChar_ne hc (d := '>') (by decide), toLower_of_isNameChar hc, shown_of_isNameChar hc]
  simpa using read_kept (fun done => { d with name := done }) id hstep (by simp [hd]) d.name rest

/-- So is the name of an attribute. -/
theorem read_attributeName {name : List Char} (hname : name.all isNameChar = true) (d : Draft)
    (hd : d.phase = .attributeName) (rest : List Char) :
    d.read (name ++ rest) = { d with pending := name.reverse ++ d.pending }.read rest := by
  have hstep : ∀ c ∈ name, ∀ done,
      Draft.step { d with pending := done } c = { d with pending := id c :: done } := by
    intro c hmem done
    have hc := List.all_eq_true.mp hname c hmem
    simp [step, hd, isSpace_of_isNameChar hc, isNameChar_ne hc (d := '/') (by decide),
      isNameChar_ne hc (d := '=') (by decide), isNameChar_ne hc (d := '>') (by decide),
      toLower_of_isNameChar hc, shown_of_isNameChar hc]
  simpa using read_kept (fun done => { d with pending := done }) id hstep (by simp [hd]) d.pending rest

/-- A value goes on to the quote. -/
theorem read_quoted {value : List Char} (hvalue : '"' ∉ value) (d : Draft) (hd : d.phase = .quoted '"')
    (rest : List Char) : d.read (value ++ '"' :: rest) =
      { d with phase := .afterQuoted, value := (value.map shown).reverse ++ d.value }.read rest := by
  have hstep : ∀ c ∈ value, ∀ done, Draft.step { d with value := done } c = { d with value := shown c :: done } := by
    intro c hmem done
    have hne : c ≠ '"' := fun he => hvalue (he ▸ hmem)
    simp [step, hd, hne]
  have hend (done : List Char) :
      Draft.step { d with value := done } '"' = { d with phase := .afterQuoted, value := done } := by
    simp [step, hd, enter]
  have hread := read_kept (fun done => { d with value := done }) shown hstep (by simp [hd]) d.value ('"' :: rest)
  rwa [read_cons (by simp [hend]), hend] at hread

/-- Where a blank or the end of the tag may follow. -/
def BeforeBlank (d : Draft) : Prop := d.phase = .name ∨ d.phase = .afterQuoted

/-- Nothing is kept of a value when there is no attribute. -/
def IsTidy (d : Draft) : Prop := d.pending = [] → d.value = []

/-- The draft behind an attribute, which is filed when the next one begins or the tag ends. -/
def withAttribute (d : Draft) (a : List Char × List Char) : Draft :=
  { d.fileAttribute with
    phase := .afterQuoted, pending := a.1.reverse, value := (a.2.map shown).reverse }

theorem fileAttribute_enter (d : Draft) (phase : Phase) :
    (d.enter phase).fileAttribute = d.fileAttribute.enter phase := by
  have hsame : (d.enter phase).pending.isEmpty = d.pending.isEmpty := rfl
  rw [fileAttribute, fileAttribute, hsame]
  cases d.pending.isEmpty <;> rfl

/-- Filing leaves nothing over. -/
theorem IsTidy.fileAttribute {d : Draft} (hd : d.IsTidy) :
    d.fileAttribute.pending = [] ∧ d.fileAttribute.value = [] := by
  rw [Draft.fileAttribute]
  split
  · rename_i hpending
    exact ⟨List.isEmpty_iff.mp hpending, hd (List.isEmpty_iff.mp hpending)⟩
  · exact ⟨rfl, rfl⟩

/-- An attribute is read up to the quote behind its value. -/
theorem read_attribute {a : List Char × List Char} (hname : IsName a.1) (hvalue : '"' ∉ a.2) {d : Draft}
    (hd : d.BeforeBlank) (htidy : d.IsTidy) (rest : List Char) :
    d.read (attributeText a ++ rest) = (d.withAttribute a).read rest := by
  obtain ⟨key, value⟩ := a
  obtain ⟨hfirst, hall⟩ := hname
  cases key with
  | nil => simp at hfirst
  | cons c key =>
    simp only [List.all_cons, Bool.and_eq_true] at hall
    obtain ⟨hc, hkey⟩ := hall
    have hblank : d.step ' ' = d.enter .beforeAttribute := by
      rcases hd with hd | hd <;> simp [step, hd, isSpace]
    have hstart : (d.enter .beforeAttribute).step c =
        { d.fileAttribute with phase := .attributeName, pending := [c] } := by
      have hbegin : (d.enter .beforeAttribute).step c = (d.enter .beforeAttribute).startAttribute c := by
        change (d.enter .beforeAttribute).beforeAttribute c = _
        simp [beforeAttribute, isSpace_of_isNameChar hc, isNameChar_ne hc (d := '/') (by decide),
          isNameChar_ne hc (d := '>') (by decide)]
      rw [hbegin, startAttribute, fileAttribute_enter, toLower_of_isNameChar hc, shown_of_isNameChar hc]
      rfl
    calc d.read (attributeText (c :: key, value) ++ rest)
        = d.read (' ' :: c :: (key ++ '=' :: '"' :: (value ++ '"' :: rest))) := by simp [attributeText]
      _ = Draft.read { d.fileAttribute with phase := .attributeName, pending := [c] }
            (key ++ '=' :: '"' :: (value ++ '"' :: rest)) := by
          rw [read_cons (by simp [hblank, enter]), hblank, read_cons (by simp [hstart]), hstart]
      _ = Draft.read { d.fileAttribute with phase := .attributeName, pending := key.reverse ++ [c] }
            ('=' :: '"' :: (value ++ '"' :: rest)) := read_attributeName hkey _ rfl _
      _ = Draft.read { d.fileAttribute with phase := .quoted '"', pending := key.reverse ++ [c] }
            (value ++ '"' :: rest) := by
          rw [read_cons (by simp [step, isSpace, enter]), read_cons (by simp [step, isSpace, enter])]
          rfl
      _ = (d.withAttribute (c :: key, value)).read rest := by
          rw [read_quoted hvalue _ rfl]
          simp [withAttribute, htidy.fileAttribute.2]

/-- A new attribute is filed behind the others. -/
theorem fileAttribute_withAttribute {d : Draft} {a : List Char × List Char} (hname : IsName a.1)
    (hnew : ∀ b ∈ d.fileAttribute.attributes, b.name ≠ String.ofList a.1) :
    (d.withAttribute a).fileAttribute.attributes = d.fileAttribute.attributes ++ [attributeRead a] := by
  have hpending : (d.withAttribute a).pending.isEmpty = false := by
    obtain ⟨key, value⟩ := a
    cases key with
    | nil => simp [IsName] at hname
    | cons c key => simp [withAttribute]
  have hnone : (d.fileAttribute.attributes.any fun b => b.name = String.ofList a.1) = false := by
    simpa using hnew
  rw [fileAttribute, hpending]
  simp [withAttribute, attributeRead, hnone]

/-- All attributes are read up to the end of the tag. -/
theorem read_attributes {attributes : List (List Char × List Char)} (h : AreAttributes attributes) {d : Draft}
    (hd : d.BeforeBlank) (htidy : d.IsTidy)
    (hnew : ∀ a ∈ attributes, ∀ b ∈ d.fileAttribute.attributes, b.name ≠ String.ofList a.1) (rest : List Char) :
    d.read (attributes.flatMap attributeText ++ '>' :: rest) =
      some (⟨String.ofList d.name.reverse, d.fileAttribute.attributes ++ attributes.map attributeRead,
        d.closesItself⟩, rest) := by
  induction attributes generalizing d with
  | nil =>
    have hstep : d.step '>' = d.finish := by rcases hd with hd | hd <;> simp [step, hd, isSpace]
    have hfiled : d.fileAttribute.name = d.name ∧ d.fileAttribute.closesItself = d.closesItself := by
      rw [fileAttribute]
      split <;> exact ⟨rfl, rfl⟩
    rw [List.flatMap_nil, List.nil_append, read, hstep]
    simp [finish, hfiled]
  | cons a attributes ih =>
    have hname := h.names a List.mem_cons_self
    have hnodup := List.nodup_cons.mp h.nodup
    have hfiled := fileAttribute_withAttribute hname (hnew a List.mem_cons_self)
    have hrest : AreAttributes attributes :=
      ⟨fun b hb => h.names b (List.mem_cons_of_mem a hb), hnodup.2,
        fun b hb => h.values b (List.mem_cons_of_mem a hb)⟩
    have htidy' : (d.withAttribute a).IsTidy := fun hpending => by
      simp only [withAttribute, List.reverse_eq_nil_iff] at hpending
      simp [IsName, hpending] at hname
    rw [List.flatMap_cons, List.append_assoc, read_attribute hname (h.values a List.mem_cons_self) hd htidy,
      ih hrest (.inr rfl) htidy' ?new, hfiled]
    case new =>
      rw [hfiled]
      intro b hb e he
      rcases List.mem_append.mp he with he | he
      · exact hnew b (List.mem_cons_of_mem a hb) e he
      · obtain rfl := List.mem_singleton.mp he
        intro heq
        exact hnodup.1 (String.ofList_injective heq ▸ List.mem_map_of_mem hb)
    have hkept : (d.withAttribute a).name = d.name ∧ (d.withAttribute a).closesItself = d.closesItself := by
      simp only [withAttribute, fileAttribute]
      split <;> exact ⟨rfl, rfl⟩
    simp [hkept]

end Draft

/-- **A written tag is read back**, with what stands behind it. -/
theorem tag?_written {name : List Char} (hname : IsName name) {attributes : List (List Char × List Char)}
    (h : AreAttributes attributes) (rest : List Char) :
    tag? (openingText name attributes ++ rest) = some (openingTag name attributes, rest) := by
  have htext : openingText name attributes ++ rest = name ++ (attributes.flatMap attributeText ++ '>' :: rest) := by
    simp [openingText]
  rw [tag?, htext, Draft.read_name hname.2 {} rfl,
    Draft.read_attributes h (.inl rfl) (fun _ => rfl) (fun _ _ _ hb => absurd hb List.not_mem_nil)]
  simp [Draft.fileAttribute, openingTag]

/-! ## The tokens of a text -/

/-- An end tag behind its `</`. -/
def closingText (name : List Char) : List Char := name ++ ['>']

/-- The tag that such a text stands for. -/
def closingTag (name : List Char) : Tag := { name := String.ofList name }

/-- A name starts with a letter, so the bracket in front of it starts a tag. -/
theorem isAlpha_of_isName {name : List Char} (hname : IsName name) :
    ∃ c cs, name = c :: cs ∧ c.isAlpha = true := by
  cases name with
  | nil => simp [IsName] at hname
  | cons c cs =>
    have hlower : c.isLower = true := by simpa using hname.1
    exact ⟨c, cs, rfl, by rw [Char.isAlpha, hlower, Bool.or_true]⟩

/-- A start tag is read back, and what stands behind it is left. -/
theorem piece_opening {name : List Char} (hname : IsName name) {attributes : List (List Char × List Char)}
    (h : AreAttributes attributes) (sections : Bool) (rest : List Char) :
    piece sections ('<' :: openingText name attributes ++ rest) =
      ([.startTag (openingTag name attributes)], rest) := by
  have hread := tag?_written hname h rest
  obtain ⟨c, cs, rfl, hc⟩ := isAlpha_of_isName hname
  obtain ⟨behind, htext⟩ : ∃ behind, openingText (c :: cs) attributes ++ rest = c :: behind := ⟨_, rfl⟩
  have hne : ∀ d, d.isAlpha = false → c ≠ d := fun d hd he => by rw [← he, hc] at hd; cases hd
  rw [List.cons_append, piece]
  rw [htext] at hread ⊢
  rw [markup]
  · rw [if_pos hc, hread]
  · exact hne '!' (by decide)
  · exact fun _ _ he => absurd he (hne '/' (by decide))
  · exact fun he => absurd he (hne '/' (by decide))

theorem piece_closing {name : List Char} (hname : IsName name) (sections : Bool) (rest : List Char) :
    piece sections ('<' :: '/' :: closingText name ++ rest) = ([.endTag (closingTag name)], rest) := by
  have hread := tag?_written hname AreAttributes.nil rest
  obtain ⟨c, cs, rfl, hc⟩ := isAlpha_of_isName hname
  have htext : openingText (c :: cs) [] ++ rest = c :: (cs ++ '>' :: rest) := by simp [openingText]
  rw [htext] at hread
  simp [piece, markup, closingText, closingTag, openingTag, hc, hread]

/-- Text goes on to the next `<`. -/
theorem piece_text {raw : List Char} (hraw : '<' ∉ raw) (hne : raw ≠ []) (sections : Bool) (rest : List Char) :
    piece sections (raw ++ '<' :: rest) = ((Reference.decode false raw).map .character, '<' :: rest) := by
  have hword : (raw ++ '<' :: rest).takeWhile (· ≠ '<') = raw := by
    have hall : ∀ c ∈ raw, decide (c ≠ '<') = true := fun c hc =>
      decide_eq_true fun he => hraw (he ▸ hc)
    rw [List.takeWhile_append_of_pos hall, List.takeWhile_cons_of_neg (by decide), List.append_nil]
  rw [piece]
  · rw [hword, List.drop_left]
  · intro cs he
    cases raw with
    | nil => exact hne rfl
    | cons c raw => exact hraw ((List.cons.inj he).1 ▸ List.mem_cons_self)

/-! ### Raw elements -/

theorem lowerAscii_of_isName {name : List Char} (hname : IsName name) : Text.lowerAscii name = name := by
  have hall := List.all_eq_true.mp hname.2
  rw [Text.lowerAscii]
  conv_rhs => rw [← List.map_id name]
  exact List.map_congr_left fun c hc => toLower_of_isNameChar (hall c hc)

theorem endsRaw_closing {name : List Char} (hname : IsName name) (rest : List Char) :
    endsRaw name ('/' :: closingText name ++ rest) = true := by
  have htext : closingText name ++ rest = name ++ '>' :: rest := by simp [closingText]
  rw [List.cons_append, htext, endsRaw, List.take_left, List.drop_left, lowerAscii_of_isName hname]
  simp

/-- The content of a raw element ends at its end tag. -/
theorem rawText_closing {name content : List Char} (hname : IsName name) (hcontent : '<' ∉ content)
    (rest : List Char) : rawText name (content ++ ('<' :: '/' :: closingText name ++ rest)) =
      (content.map shown, '<' :: '/' :: closingText name ++ rest) := by
  induction content with
  | nil =>
    rw [List.nil_append, List.cons_append, rawText, endsRaw_closing hname]
    rfl
  | cons c content ih =>
    rw [List.mem_cons, not_or] at hcontent
    rw [List.cons_append, rawText, ih hcontent.2]
    simp [Ne.symm hcontent.1]

end Lexer

end Vitrine.Html
