import Vitrine.Html.Construction.Body

/-!
# Tree construction: frames, and behind the body

The rules of a document that is divided into frames, and of what follows the end of the document.
-/

namespace Vitrine.Html.Construction

def afterBody (s : Construction) (t : Token) : Construction :=
  let otherwise := s.retry .inBody
  match t with
  | .character c => if isBlank c then s.inBody t else otherwise
  | .comment text =>
    s.putCommentIn ((s.root?.map OpenElement.node).getD Store.document) text
  | .startTag tag => if tag.name = "html" then s.mergeRoot tag else otherwise
  | .endTag tag => if tag.name = "html" then s.switchTo .afterAfterBody else otherwise
  | .endOfFile => s
  | _ => otherwise

def afterAfterBody (s : Construction) (t : Token) : Construction :=
  let otherwise := s.retry .inBody
  match t with
  | .character c => if isBlank c then s.inBody t else otherwise
  | .comment text => s.putCommentIn Store.document text
  | .startTag tag => if tag.name = "html" then s.mergeRoot tag else otherwise
  | .endOfFile => s
  | _ => otherwise

def inFrameset (s : Construction) (t : Token) : Construction :=
  match t with
  | .character c => if isBlank c then s.putCharacter c else s
  | .comment text => s.putComment text
  | .startTag tag =>
    if tag.name = "html" then s.mergeRoot tag
    else if tag.name = "frameset" then s.insert tag
    else if tag.name = "frame" then s.insertEmpty tag
    else if tag.name = "noframes" then s.inHead t
    else s
  | .endTag tag =>
    if tag.name ≠ "frameset" || s.openElements.length = 1 then s
    else
      let s := s.pop
      if s.currentIs ["frameset"] then s else s.switchTo .afterFrameset
  | _ => s

def afterFrameset (s : Construction) (t : Token) : Construction :=
  match t with
  | .character c => if isBlank c then s.putCharacter c else s
  | .comment text => s.putComment text
  | .startTag tag =>
    if tag.name = "html" then s.mergeRoot tag
    else if tag.name = "noframes" then s.inHead t
    else s
  | .endTag tag => if tag.name = "html" then s.switchTo .afterAfterFrameset else s
  | _ => s

def afterAfterFrameset (s : Construction) (t : Token) : Construction :=
  match t with
  | .character c => if isBlank c then s.inBody t else s
  | .comment text => s.putCommentIn Store.document text
  | .startTag tag =>
    if tag.name = "html" then s.mergeRoot tag
    else if tag.name = "noframes" then s.inHead t
    else s
  | _ => s

end Vitrine.Html.Construction
