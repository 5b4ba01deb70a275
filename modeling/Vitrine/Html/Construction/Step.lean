import Vitrine.Html.Construction.Table
import Vitrine.Html.Construction.Frames
import Vitrine.Html.OldDoctype

/-!
# Tree construction: one token

`take` gives a token to the rules of the current mode, or to those of foreign content where an element
of graphics or mathematics is open, until no rule leaves it to another mode.
-/

namespace Vitrine.Html.Construction

/-- The rules of the current mode. -/
def byMode (s : Construction) (t : Token) : Construction :=
  match s.mode with
  | .initial => s.initial t
  | .beforeHtml => s.beforeHtml t
  | .beforeHead => s.beforeHead t
  | .inHead => s.inHead t
  | .afterHead => s.afterHead t
  | .inBody => s.inBody t
  | .text => s.inText t
  | .inTable => s.inTable t
  | .inTableText => s.inTableText t
  | .inCaption => s.inCaption t
  | .inColumnGroup => s.inColumnGroup t
  | .inTableBody => s.inTableBody t
  | .inRow => s.inRow t
  | .inCell => s.inCell t
  | .inSelect => s.inSelect t
  | .inSelectInTable => s.inSelectInTable t
  | .inTemplate => s.inTemplate t
  | .afterBody => s.afterBody t
  | .inFrameset => s.inFrameset t
  | .afterFrameset => s.afterFrameset t
  | .afterAfterBody => s.afterAfterBody t
  | .afterAfterFrameset => s.afterAfterFrameset t

/-! ## Foreign content -/

/-- Whether a token falls under the rules of foreign content. -/
def isForeign (s : Construction) (t : Token) : Bool :=
  match s.current?, t with
  | _, .endOfFile => false
  | none, _ => false
  | some e, t =>
    if e.name.vocabulary = .html then false
    else match t with
    | .character _ => !(e.name.holdsMathText || e.name.holdsHtml || e.annotates)
    | .startTag tag =>
      if e.name.holdsMathText then ["mglyph", "malignmark"].contains tag.name
      else if e.name.holdsHtml then false
      else if e.name = ⟨.mathml, "annotation-xml"⟩ then tag.name ≠ "svg" && !e.annotates
      else true
    | _ => true

/-- Closes foreign elements up to one whose content is HTML. -/
def leaveForeign (s : Construction) : Construction :=
  let s := s.pop
  { s with openElements := s.openElements.dropWhile fun e =>
      !(e.name.vocabulary = .html || e.name.holdsMathText || e.name.holdsHtml) }

def foreignStart (s : Construction) (tag : Tag) : Construction :=
  let breaksOut := breakoutTags.contains tag.name
    || (tag.name = "font" && ["color", "face", "size"].any fun a => (tag.value? a).isSome)
  if breaksOut then { s.leaveForeign with again := true }
  else
    let vocabulary := (s.current?.map (·.name.vocabulary)).getD .html
    s.insertForeign vocabulary (tag.adjusted vocabulary false)

/-- The open elements that an end tag in foreign content leaves: `none` if it finds an element of HTML
first. -/
def closedForeign? (tag : String) : List OpenElement → Bool → List OpenElement →
    Option (List OpenElement)
  | [], _, whole => some whole
  | [_], _, whole => some whole
  | e :: es, first, whole =>
    if !first && e.name.vocabulary = .html then none
    else if Text.equalIgnoringCase e.name.tag tag then some es
    else closedForeign? tag es false whole

def foreignEnd (s : Construction) (tag : Tag) : Construction :=
  match closedForeign? tag.name s.openElements true s.openElements with
  | some openElements => { s with openElements }
  | none => s.byMode (.endTag tag)

/-- The rules of foreign content. -/
def foreign (s : Construction) (t : Token) : Construction :=
  match t with
  | .character c =>
    if c = '\x00' then s.putCharacter '\ufffd'
    else (if isBlank c then s else s.forbidFrames).putCharacter c
  | .comment text => s.putComment text
  | .startTag tag => s.foreignStart tag
  | .endTag tag => s.foreignEnd tag
  | _ => s

/-! ## A token -/

/-- Gives a token to one set of rules after the other. -/
def settle (t : Token) : Nat → Construction → Construction
  | 0, s => { s with again := false }
  | n + 1, s =>
    let s := if s.isForeign t then s.foreign t else s.byMode t
    if s.again then settle t n { s with again := false } else s

/-- Takes a token in. A token that is left to other rules closes elements or goes on to a later mode, so
the number of open elements bounds how often that happens. -/
def take (s : Construction) (t : Token) : Construction :=
  let drops := s.dropsLineFeed
  let s := { s with dropsLineFeed := false }
  match t with
  | .fault => s
  | .doctype d =>
    if s.mode ≠ .initial then s
    else
      let (s, id) := s.create (.doctype d.name)
      { s.putAt (.inside Store.document) id with isOld := d.isOld, mode := .beforeHtml }
  | t =>
    if drops && (match t with | .character c => c = '\n' | _ => false) then s
    else settle t (8 * (s.openElements.length + 4)) s

end Vitrine.Html.Construction
