import Vitrine.Html.Lexer.Tag
import Vitrine.Text.Ascii

/-!
# Comments and document types

What follows `<!`: a comment between `--` and `-->`, a document type, a section of plain characters
inside foreign elements, or anything else, which is a comment up to the next `>`.
-/

namespace Vitrine.Html.Lexer

/-- The text of a comment and the text behind it. `--!>` ends a comment too, and so does the end of the
text, which drops the dashes in front of it. -/
def commentText : List Char → List Char × List Char
  | '-' :: '-' :: '>' :: cs => ([], cs)
  | '-' :: '-' :: '!' :: '>' :: cs => ([], cs)
  | ['-', '-', '!'] => ([], [])
  | ['-', '-'] => ([], [])
  | ['-'] => ([], [])
  | c :: cs => let (text, rest) := commentText cs; (shown c :: text, rest)
  | [] => ([], [])

/-- A comment behind its `<!--`. It may be closed at once by `>` or `->`. -/
def comment : List Char → Token × List Char
  | '>' :: cs => (.comment "", cs)
  | '-' :: '>' :: cs => (.comment "", cs)
  | cs => let (text, rest) := commentText cs; (.comment (String.ofList text), rest)

/-- All up to the next `>` as a comment. -/
def bogusComment (cs : List Char) : Token × List Char :=
  let text := cs.takeWhile (· ≠ '>')
  (.comment (String.ofList (text.map shown)), (cs.drop text.length).drop 1)

/-- The characters up to `]]>`. -/
def sectionText : List Char → List Char × List Char
  | ']' :: ']' :: '>' :: cs => ([], cs)
  | c :: cs => let (text, rest) := sectionText cs; (c :: text, rest)
  | [] => ([], [])

/-- An identifier in quotes, and the text behind it without blanks. -/
def quotedId? : List Char → Option (String × List Char)
  | c :: cs =>
    if c = '"' || c = '\'' then
      let text := cs.takeWhile (· ≠ c)
      match cs.drop text.length with
      | [] => none
      | _ :: rest => some (String.ofList (text.map shown), rest.dropWhile isSpace)
    else none
  | [] => none

/-- The identifiers of a document type, from the text between its name and its `>`. -/
def Doctype.withIds (d : Doctype) (text : List Char) : Doctype :=
  let text := text.dropWhile isSpace
  let word := Text.lowered (String.ofList (text.take 6))
  let behind := (text.drop 6).dropWhile isSpace
  let broken := { d with isBroken := true }
  if text.isEmpty then d
  else if word = "public" then
    match quotedId? behind with
    | none => broken
    | some (publicId, []) => { d with publicId }
    | some (publicId, rest) =>
      match quotedId? rest with
      | none => { broken with publicId }
      | some (systemId, _) => { d with publicId, systemId }
  else if word = "system" then
    match quotedId? behind with
    | none => broken
    | some (systemId, _) => { d with systemId }
  else broken

/-- A document type behind its `<!doctype`. No part of it can hold a `>`. -/
def doctype (cs : List Char) : Token × List Char :=
  let text := cs.takeWhile (· ≠ '>')
  let rest := cs.drop text.length
  let inner := text.dropWhile isSpace
  let name := inner.takeWhile fun c => !isSpace c
  let d : Doctype :=
    { name := String.ofList (name.map fun c => shown c.toLower),
      isBroken := name.isEmpty || rest.isEmpty }
  (.doctype (Doctype.withIds d (inner.drop name.length)), rest.drop 1)

/-- What follows `<!`. Sections are known inside foreign elements alone. -/
def declaration (sections : Bool) (cs : List Char) : List Token × List Char :=
  match cs with
  | '-' :: '-' :: cs => let (t, rest) := comment cs; ([t], rest)
  | cs =>
    if Text.lowered (String.ofList (cs.take 7)) = "doctype" then
      let (t, rest) := doctype (cs.drop 7)
      ([t], rest)
    else if sections && String.ofList (cs.take 7) = "[CDATA[" then
      let (text, rest) := sectionText (cs.drop 7)
      (text.map .character, rest)
    else
      let (t, rest) := bogusComment cs
      ([t], rest)

end Vitrine.Html.Lexer
