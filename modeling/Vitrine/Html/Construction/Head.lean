import Vitrine.Html.Construction.Formatting

/-!
# Tree construction: up to the body

The rules before the root, in the head and behind it. What a document leaves out is put in: the root,
the head and the body are always there.
-/

namespace Vitrine.Html.Construction

/-- Opens the root of the document. -/
def openRoot (s : Construction) (tag : Tag) : Construction :=
  let (s, id) := s.create (.element ⟨.html, "html"⟩ tag.attributes)
  (s.putAt (.inside Store.document) id).push ⟨id, ⟨.html, "html"⟩, false⟩

/-- A root tag behind the first one only adds attributes. -/
def mergeRoot (s : Construction) (tag : Tag) : Construction :=
  if s.hasOpen "template" then s
  else match s.root? with
  | some e => { s with store := s.store.addAttributes e.node tag.attributes }
  | none => s

/-- Opens the head and keeps it in mind. -/
def openHead (s : Construction) (tag : Tag) : Construction :=
  let s := s.insert tag
  { s with head := s.current?.map OpenElement.node }

/-- End tags that the rules before the body take for the beginning of the body. -/
def lateEndTags : List String := ["body", "html", "br"]

def initial (s : Construction) (t : Token) : Construction :=
  match t with
  | .character c => if isBlank c then s else { s with isOld := true }.retry .beforeHtml
  | .comment text => s.putCommentIn Store.document text
  | _ => { s with isOld := true }.retry .beforeHtml

def beforeHtml (s : Construction) (t : Token) : Construction :=
  let otherwise := (s.openRoot { name := "html" }).retry .beforeHead
  match t with
  | .character c => if isBlank c then s else otherwise
  | .comment text => s.putCommentIn Store.document text
  | .startTag tag => if tag.name = "html" then (s.openRoot tag).switchTo .beforeHead else otherwise
  | .endTag tag => if ("head" :: lateEndTags).contains tag.name then otherwise else s
  | _ => otherwise

def beforeHead (s : Construction) (t : Token) : Construction :=
  let otherwise := (s.openHead { name := "head" }).retry .inHead
  match t with
  | .character c => if isBlank c then s else otherwise
  | .comment text => s.putComment text
  | .startTag tag =>
    if tag.name = "html" then s.mergeRoot tag
    else if tag.name = "head" then (s.openHead tag).switchTo .inHead
    else otherwise
  | .endTag tag => if ("head" :: lateEndTags).contains tag.name then otherwise else s
  | _ => otherwise

def openTemplate (s : Construction) (tag : Tag) : Construction :=
  let s := (s.insert tag).markFormatting.forbidFrames
  { s with mode := .inTemplate, templateModes := .inTemplate :: s.templateModes }

/-- Leaves the innermost template for the mode that is proper then. -/
def leaveTemplate (s : Construction) : Construction :=
  let s := s.forgetFormatting
  let s := { s with templateModes := s.templateModes.drop 1 }
  s.switchTo s.properMode

def closeTemplate (s : Construction) : Construction :=
  if !s.hasOpen "template" then s
  else
    let openElements := s.openElements.dropWhile fun e => e.name.isHtml thoroughlyImpliedTags
    ({ s with openElements }.popThroughTag "template").leaveTemplate

def inHead (s : Construction) (t : Token) : Construction :=
  let otherwise := s.pop.retry .afterHead
  match t with
  | .character c => if isBlank c then s.putCharacter c else otherwise
  | .comment text => s.putComment text
  | .startTag tag =>
    if tag.name = "html" then s.mergeRoot tag
    else if ["base", "basefont", "bgsound", "link", "meta"].contains tag.name then s.insertEmpty tag
    else if tag.name = "title" then s.insertRaw tag (.raw tag.name true)
    else if ["noframes", "style", "noscript"].contains tag.name then
      s.insertRaw tag (.raw tag.name false)
    else if tag.name = "script" then s.insertRaw tag .script
    else if tag.name = "template" then s.openTemplate tag
    else if tag.name = "head" then s
    else otherwise
  | .endTag tag =>
    if tag.name = "head" then s.pop.switchTo .afterHead
    else if lateEndTags.contains tag.name then otherwise
    else if tag.name = "template" then s.closeTemplate
    else s
  | _ => otherwise

/-- The rules of the head while its element is closed already. -/
def inHeadAgain (s : Construction) (t : Token) : Construction :=
  match s.head with
  | some node => ((s.push ⟨node, ⟨.html, "head"⟩, false⟩).inHead t).close node
  | none => s

def afterHead (s : Construction) (t : Token) : Construction :=
  let otherwise := (s.insertNamed "body").retry .inBody
  match t with
  | .character c => if isBlank c then s.putCharacter c else otherwise
  | .comment text => s.putComment text
  | .startTag tag =>
    if tag.name = "html" then s.mergeRoot tag
    else if tag.name = "body" then (s.insert tag).forbidFrames.switchTo .inBody
    else if tag.name = "frameset" then (s.insert tag).switchTo .inFrameset
    else if headTags.contains tag.name then s.inHeadAgain t
    else if tag.name = "head" then s
    else otherwise
  | .endTag tag =>
    if tag.name = "template" then s.inHead t
    else if lateEndTags.contains tag.name then otherwise
    else s
  | _ => otherwise

/-- The end of the text inside a template closes the template. -/
def endInTemplate (s : Construction) : Construction :=
  if !s.hasOpen "template" then s
  else
    let s := (s.popThroughTag "template").leaveTemplate
    s.retry s.mode

end Vitrine.Html.Construction
