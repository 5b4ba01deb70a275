import Vitrine.Html.Construction.Body

/-!
# Tree construction: in tables and selections

A table holds rows and cells alone, and a selection holds options. Other content of a table is put in
front of it; other tags in a selection are dropped or end it.
-/

namespace Vitrine.Html.Construction

def inTableScope (s : Construction) (tags : List String) : Bool :=
  s.hasScoped (·.endsTableScope) tags

/-! ## Tables -/

/-- A character in a table waits until it is known whether all around it are blanks. -/
def tableCharacter (s : Construction) (c : Char) : Construction :=
  if s.currentIs tableParts then { s with resumed := s.mode }.retry .inTableText
  else s.foster (.character c)

def tableStart (s : Construction) (tag : Tag) : Construction :=
  let is (tags : List String) : Bool := tags.contains tag.name
  let cleared := s.popTo ["html", "table", "template"]
  if is ["caption"] then (cleared.markFormatting.insert tag).switchTo .inCaption
  else if is ["colgroup"] then (cleared.insert tag).switchTo .inColumnGroup
  else if is ["col"] then (cleared.insertNamed "colgroup").retry .inColumnGroup
  else if is ["tbody", "tfoot", "thead"] then (cleared.insert tag).switchTo .inTableBody
  else if is ["td", "th", "tr"] then (cleared.insertNamed "tbody").retry .inTableBody
  else if is ["table"] then
    if s.inTableScope ["table"] then
      let s := s.popThroughTag "table"
      s.retry s.properMode
    else s
  else if is ["style", "script", "template"] then s.inHead (.startTag tag)
  else if is ["input"] then
    if Tag.isHidden tag then s.insertEmpty tag else s.foster (.startTag tag)
  else if is ["form"] then
    if s.hasOpen "template" || s.form.isSome then s
    else
      let (s, e) := s.newElement .html tag
      { s with form := some e.node }
  else s.foster (.startTag tag)

def tableEnd (s : Construction) (tag : Tag) : Construction :=
  let is (tags : List String) : Bool := tags.contains tag.name
  if is ["table"] then
    if s.inTableScope ["table"] then
      let s := s.popThroughTag "table"
      s.switchTo s.properMode
    else s
  else if is ["body", "caption", "col", "colgroup", "html", "tbody", "td", "tfoot", "th", "thead",
      "tr"] then s
  else if is ["template"] then s.inHead (.endTag tag)
  else s.foster (.endTag tag)

def inTable (s : Construction) (t : Token) : Construction :=
  match t with
  | .character c => s.tableCharacter c
  | .comment text => s.putComment text
  | .startTag tag => s.tableStart tag
  | .endTag tag => s.tableEnd tag
  | .endOfFile => s.inBody t
  | _ => s

/-- Puts the waiting characters into the table, or in front of it if they are not all blank. -/
def flushTableText (s : Construction) : Construction :=
  let text := s.tableText.reverse
  let s := { s with tableText := [] }
  if text.all isBlank then text.foldl putCharacter s
  else text.foldl (fun s c => s.foster (.character c)) s

def inTableText (s : Construction) (t : Token) : Construction :=
  match t with
  | .character c => if c = '\x00' then s else { s with tableText := c :: s.tableText }
  | _ => s.flushTableText.retry s.resumed

def inCaption (s : Construction) (t : Token) : Construction :=
  let closed := ((s.closeImplied []).popThroughTag "caption").forgetFormatting
  let isOpen := s.inTableScope ["caption"]
  match t with
  | .startTag tag =>
    if ["caption", "col", "colgroup", "tbody", "td", "tfoot", "th", "thead", "tr"].contains tag.name
    then if isOpen then closed.retry .inTable else s
    else s.inBody t
  | .endTag tag =>
    if tag.name = "caption" then if isOpen then closed.switchTo .inTable else s
    else if tag.name = "table" then if isOpen then closed.retry .inTable else s
    else if ["body", "col", "colgroup", "html", "tbody", "td", "tfoot", "th", "thead",
        "tr"].contains tag.name then s
    else s.inBody t
  | _ => s.inBody t

def inColumnGroup (s : Construction) (t : Token) : Construction :=
  let otherwise := if s.currentIs ["colgroup"] then s.pop.retry .inTable else s
  match t with
  | .character c => if isBlank c then s.putCharacter c else otherwise
  | .comment text => s.putComment text
  | .startTag tag =>
    if tag.name = "html" then s.mergeRoot tag
    else if tag.name = "col" then s.insertEmpty tag
    else if tag.name = "template" then s.inHead t
    else otherwise
  | .endTag tag =>
    if tag.name = "colgroup" then if s.currentIs ["colgroup"] then s.pop.switchTo .inTable else s
    else if tag.name = "col" then s
    else if tag.name = "template" then s.inHead t
    else otherwise
  | .endOfFile => s.inBody t
  | _ => otherwise

/-- Elements that hold rows, and where a search for one ends. -/
def rowGroups : List String := ["tbody", "tfoot", "thead", "template", "html"]

def inTableBody (s : Construction) (t : Token) : Construction :=
  let cleared := s.popTo rowGroups
  let leave := if s.inTableScope ["table", "tbody", "tfoot"] then cleared.pop.retry .inTable else s
  match t with
  | .startTag tag =>
    if tag.name = "tr" then (cleared.insert tag).switchTo .inRow
    else if ["th", "td"].contains tag.name then (cleared.insertNamed "tr").retry .inRow
    else if ["caption", "col", "colgroup", "tbody", "tfoot", "thead"].contains tag.name then leave
    else s.inTable t
  | .endTag tag =>
    if ["tbody", "tfoot", "thead"].contains tag.name then
      if s.inTableScope [tag.name] then cleared.pop.switchTo .inTable else s
    else if tag.name = "table" then leave
    else if ["body", "caption", "col", "colgroup", "html", "td", "th", "tr"].contains tag.name then s
    else s.inTable t
  | _ => s.inTable t

def inRow (s : Construction) (t : Token) : Construction :=
  let cleared := s.popTo ["tr", "template", "html"]
  let isOpen := s.inTableScope ["tr"]
  let leave := if isOpen then cleared.pop.retry .inTableBody else s
  match t with
  | .startTag tag =>
    if ["th", "td"].contains tag.name then ((cleared.insert tag).switchTo .inCell).markFormatting
    else if ["caption", "col", "colgroup", "tbody", "tfoot", "thead", "tr"].contains tag.name then
      leave
    else s.inTable t
  | .endTag tag =>
    if tag.name = "tr" then if isOpen then cleared.pop.switchTo .inTableBody else s
    else if tag.name = "table" then leave
    else if ["tbody", "tfoot", "thead"].contains tag.name then
      if s.inTableScope [tag.name] then leave else s
    else if ["body", "caption", "col", "colgroup", "html", "td", "th"].contains tag.name then s
    else s.inTable t
  | _ => s.inTable t

def closeCell (s : Construction) : Construction :=
  ((s.closeImplied []).popThrough (·.isHtml ["td", "th"])).forgetFormatting.retry .inRow

def inCell (s : Construction) (t : Token) : Construction :=
  match t with
  | .startTag tag =>
    if ["caption", "col", "colgroup", "tbody", "td", "tfoot", "th", "thead", "tr"].contains tag.name
    then if s.inTableScope ["td", "th"] then s.closeCell else s
    else s.inBody t
  | .endTag tag =>
    if ["td", "th"].contains tag.name then
      if s.inTableScope [tag.name] then
        ((s.closeImplied []).popThroughTag tag.name).forgetFormatting.switchTo .inRow
      else s
    else if ["body", "caption", "col", "colgroup", "html"].contains tag.name then s
    else if ["table", "tbody", "tfoot", "thead", "tr"].contains tag.name then
      if s.inTableScope [tag.name] then s.closeCell else s
    else s.inBody t
  | _ => s.inBody t

/-! ## Selections -/

def hasSelect (s : Construction) : Bool := s.hasScoped (·.endsSelectScope) ["select"]

def selectStart (s : Construction) (tag : Tag) : Construction :=
  let popIf (s : Construction) (name : String) := if s.currentIs [name] then s.pop else s
  if tag.name = "html" then s.mergeRoot tag
  else if tag.name = "option" then (popIf s "option").insert tag
  else if tag.name = "optgroup" then (popIf (popIf s "option") "optgroup").insert tag
  else if tag.name = "select" then
    if s.hasSelect then
      let s := s.popThroughTag "select"
      s.switchTo s.properMode
    else s
  else if ["input", "keygen", "textarea"].contains tag.name then
    if s.hasSelect then
      let s := s.popThroughTag "select"
      s.retry s.properMode
    else s
  else if ["script", "template"].contains tag.name then s.inHead (.startTag tag)
  else s

def selectEnd (s : Construction) (tag : Tag) : Construction :=
  if tag.name = "optgroup" then
    let s := match s.openElements with
      | option :: group :: _ =>
        if option.name.isHtml ["option"] && group.name.isHtml ["optgroup"] then s.pop else s
      | _ => s
    if s.currentIs ["optgroup"] then s.pop else s
  else if tag.name = "option" then if s.currentIs ["option"] then s.pop else s
  else if tag.name = "select" then
    if s.hasSelect then
      let s := s.popThroughTag "select"
      s.switchTo s.properMode
    else s
  else if tag.name = "template" then s.inHead (.endTag tag)
  else s

def inSelect (s : Construction) (t : Token) : Construction :=
  match t with
  | .character c => if c = '\x00' then s else s.putCharacter c
  | .comment text => s.putComment text
  | .startTag tag => s.selectStart tag
  | .endTag tag => s.selectEnd tag
  | .endOfFile => s.inBody t
  | _ => s

/-- Tags that end a selection in a table. -/
def tableTags : List String := ["caption", "table", "tbody", "tfoot", "thead", "tr", "td", "th"]

def inSelectInTable (s : Construction) (t : Token) : Construction :=
  let leave :=
    let s := s.popThroughTag "select"
    s.retry s.properMode
  match t with
  | .startTag tag => if tableTags.contains tag.name then leave else s.inSelect t
  | .endTag tag =>
    if tableTags.contains tag.name then if s.inTableScope [tag.name] then leave else s
    else s.inSelect t
  | _ => s.inSelect t

end Vitrine.Html.Construction
