import Vitrine.Html.Construction.Head

/-!
# Tree construction: in the body

The rules for the content of a document.
-/

namespace Vitrine.Html.Construction

/-- A character that no other rule takes. Null characters are dropped. -/
def bodyCharacter (s : Construction) (c : Char) : Construction :=
  if c = '\x00' then s
  else
    let s := s.reopen
    (if isBlank c then s else s.forbidFrames).putCharacter c

/-! ## Start tags -/

/-- Attributes of a second body tag that the body does not have yet. -/
def mergeBody (s : Construction) (tag : Tag) : Construction :=
  match s.bodyIfOpen? with
  | some node =>
    if s.hasOpen "template" then s
    else { s.forbidFrames with store := s.store.addAttributes node tag.attributes }
  | none => s

/-- Frames take the place of a body that holds nothing yet. -/
def replaceBody (s : Construction) (tag : Tag) : Construction :=
  if !s.allowsFrames then s
  else match s.bodyIfOpen?, s.root? with
  | some node, some root =>
    let s := { s with store := s.store.detach node, openElements := [root] }
    (s.insert tag).switchTo .inFrameset
  | _, _ => s

def openForm (s : Construction) (tag : Tag) : Construction :=
  let templated := s.hasOpen "template"
  if s.form.isSome && !templated then s
  else
    let s := s.endParagraph.insert tag
    if templated then s else { s with form := s.current?.map OpenElement.node }

/-- The open item that a new item of the same list closes. -/
def itemToClose? (tags : List String) : List OpenElement → Option String
  | [] => none
  | e :: es =>
    if e.name.isHtml tags then some e.name.tag
    else if e.name.isSpecial && !e.name.isHtml ["address", "div", "p"] then none
    else itemToClose? tags es

def openItem (s : Construction) (tag : Tag) : Construction :=
  let tags := if tag.name = "li" then ["li"] else ["dd", "dt"]
  let s := s.forbidFrames
  let s := match itemToClose? tags s.openElements with
    | some name => (s.closeImplied [name]).popThroughTag name
    | none => s
  s.endParagraph.insert tag

def openButton (s : Construction) (tag : Tag) : Construction :=
  let s := if s.hasScoped (·.endsScope) ["button"] then
      (s.closeImplied []).popThroughTag "button"
    else s
  (s.reopen.insert tag).forbidFrames

def openNobr (s : Construction) (tag : Tag) : Construction :=
  let s := s.reopen
  let s := if s.hasScoped (·.endsScope) ["nobr"] then (s.adopt "nobr").reopen else s
  s.insertFormatting tag

/-- An input field that is not shown. -/
def Tag.isHidden (tag : Tag) : Bool :=
  match tag.value? "type" with
  | some value => Text.equalIgnoringCase value "hidden"
  | none => false

def openSelect (s : Construction) (tag : Tag) : Construction :=
  let inTable := [Mode.inTable, .inCaption, .inTableBody, .inRow, .inCell].contains s.mode
  let s := (s.reopen.insert tag).forbidFrames
  s.switchTo (if inTable then .inSelectInTable else .inSelect)

/-- A part of an annotation above text. -/
def openRuby (s : Construction) (tag : Tag) : Construction :=
  let s := if s.hasScoped (·.endsScope) ["ruby"] then
      s.closeImplied (if ["rp", "rt"].contains tag.name then ["rtc"] else [])
    else s
  s.insert tag

/-- An element without content. -/
def insertVoid (s : Construction) (tag : Tag) : Construction :=
  let s := s.reopen.insertEmpty tag
  if tag.name = "input" && Tag.isHidden tag then s else s.forbidFrames

def openForeign (s : Construction) (vocabulary : Vocabulary) (tag : Tag) : Construction :=
  s.insertForeign vocabulary (tag.adjusted vocabulary true)

def bodyStart (s : Construction) (tag : Tag) : Construction :=
  let is (tags : List String) : Bool := tags.contains tag.name
  if is ["html"] then s.mergeRoot tag
  else if is headTags then s.inHead (.startTag tag)
  else if is ["body"] then s.mergeBody tag
  else if is ["frameset"] then s.replaceBody tag
  else if is blockTags then s.endParagraph.insert tag
  else if is headingTags then
    let s := s.endParagraph
    (if s.currentIs headingTags then s.pop else s).insert tag
  else if is ["pre", "listing"] then
    { (s.endParagraph.insert tag).forbidFrames with dropsLineFeed := true }
  else if is ["form"] then s.openForm tag
  else if is ["li", "dd", "dt"] then s.openItem tag
  else if is ["plaintext"] then { s.endParagraph.insert tag with reading := .plain }
  else if is ["button"] then s.openButton tag
  else if is ["a"] then s.closeLink.reopen.insertFormatting tag
  else if is formattingTags then s.reopen.insertFormatting tag
  else if is ["nobr"] then s.openNobr tag
  else if is ["applet", "marquee", "object"] then
    (s.reopen.insert tag).markFormatting.forbidFrames
  else if is ["table"] then
    ((if s.isOld then s else s.endParagraph).insert tag).forbidFrames.switchTo .inTable
  else if is ["area", "br", "embed", "img", "keygen", "wbr", "input"] then s.insertVoid tag
  else if is ["param", "source", "track"] then s.insertEmpty tag
  else if is ["hr"] then (s.endParagraph.insertEmpty tag).forbidFrames
  else if is ["image"] then s.insertVoid { tag with name := "img" }
  else if is ["textarea"] then
    { s.forbidFrames.insertRaw tag (.raw tag.name true) with dropsLineFeed := true }
  else if is ["xmp"] then s.endParagraph.reopen.forbidFrames.insertRaw tag (.raw tag.name false)
  else if is ["iframe"] then s.forbidFrames.insertRaw tag (.raw tag.name false)
  else if is ["noembed", "noscript"] then s.insertRaw tag (.raw tag.name false)
  else if is ["select"] then s.openSelect tag
  else if is ["optgroup", "option"] then
    (if s.currentIs ["option"] then s.pop else s).reopen.insert tag
  else if is ["rb", "rtc", "rp", "rt"] then s.openRuby tag
  else if is ["math"] then s.openForeign .mathml tag
  else if is ["svg"] then s.openForeign .svg tag
  else if is ["caption", "col", "colgroup", "frame", "head", "tbody", "td", "tfoot", "th", "thead",
      "tr"] then s
  else s.reopen.insert tag

/-! ## End tags -/

def closeForm (s : Construction) : Construction :=
  if s.hasOpen "template" then
    if s.hasScoped (·.endsScope) ["form"] then (s.closeImplied []).popThroughTag "form" else s
  else match s.form with
  | none => s
  | some node =>
    let s := { s with form := none }
    if inScope (·.endsScope) (·.node = node) s.openElements then (s.closeImplied []).close node
    else s

/-- Closes an element that the scope given by `ends` holds, and what is open in it. -/
def closeScoped (s : Construction) (ends : ElementName → Bool) (tag : String)
    (kept : List String) : Construction :=
  if s.hasScoped ends [tag] then (s.closeImplied kept).popThroughTag tag else s

def bodyEnd (s : Construction) (tag : Tag) : Construction :=
  let is (tags : List String) : Bool := tags.contains tag.name
  if is ["template"] then s.inHead (.endTag tag)
  else if is ["body"] then
    if s.hasScoped (·.endsScope) ["body"] then s.switchTo .afterBody else s
  else if is ["html"] then
    if s.hasScoped (·.endsScope) ["body"] then s.retry .afterBody else s
  else if is closingTags then s.closeScoped (·.endsScope) tag.name []
  else if is ["form"] then s.closeForm
  else if is ["p"] then
    (if s.hasScoped (·.endsButtonScope) ["p"] then s else s.insertNamed "p").closeParagraph
  else if is ["li"] then s.closeScoped (·.endsListScope) tag.name [tag.name]
  else if is ["dd", "dt"] then s.closeScoped (·.endsScope) tag.name [tag.name]
  else if is headingTags then
    if s.hasScoped (·.endsScope) headingTags then
      (s.closeImplied []).popThrough (·.isHtml headingTags)
    else s
  else if is ("a" :: "nobr" :: formattingTags) then s.adopt tag.name
  else if is ["applet", "marquee", "object"] then
    if s.hasScoped (·.endsScope) [tag.name] then
      ((s.closeImplied []).popThroughTag tag.name).forgetFormatting
    else s
  else if is ["br"] then s.insertVoid { name := "br" }
  else s.endOther tag.name

def inBody (s : Construction) (t : Token) : Construction :=
  match t with
  | .character c => s.bodyCharacter c
  | .comment text => s.putComment text
  | .startTag tag => s.bodyStart tag
  | .endTag tag => s.bodyEnd tag
  | .endOfFile => if s.templateModes.isEmpty then s else s.endInTemplate
  | _ => s

/-- The rules of the body for what does not belong into a table. -/
def foster (s : Construction) (t : Token) : Construction :=
  { ({ s with fosters := true }).inBody t with fosters := false }

/-- The content of an element that holds text, and its end. -/
def inText (s : Construction) (t : Token) : Construction :=
  match t with
  | .character c => s.putCharacter c
  | .endTag _ => s.pop.switchTo s.resumed
  | .endOfFile => s.pop.retry s.resumed
  | _ => s

/-! ## Templates -/

/-- What a start tag makes of the content of a template. -/
def templateMode (tag : Tag) : Mode :=
  if ["caption", "colgroup", "tbody", "tfoot", "thead"].contains tag.name then .inTable
  else if tag.name = "col" then .inColumnGroup
  else if tag.name = "tr" then .inTableBody
  else if ["td", "th"].contains tag.name then .inRow
  else .inBody

def inTemplate (s : Construction) (t : Token) : Construction :=
  match t with
  | .character _ | .comment _ => s.inBody t
  | .startTag tag =>
    if headTags.contains tag.name then s.inHead t
    else
      let mode := templateMode tag
      { s with templateModes := mode :: s.templateModes.drop 1 }.retry mode
  | .endTag tag => if tag.name = "template" then s.inHead t else s
  | .endOfFile => s.endInTemplate
  | _ => s

end Vitrine.Html.Construction
