import Vitrine.Html.Lexer.Tag
import Vitrine.Text.Ascii

/-!
# The text of raw elements

The content of some elements is text without markup: it runs up to the end tag of the element. In a
script the end tag does not count while the text is inside both a comment and a nested `<script>`;
`ScriptPhase.step` follows that from character to character.
-/

namespace Vitrine.Html.Lexer

/-- Whether the text behind a `<` is the end tag of `name`. -/
def endsRaw (name : List Char) : List Char → Bool
  | '/' :: cs =>
    Text.lowerAscii (cs.take name.length) == name
      && match cs.drop name.length with
        | c :: _ => isSpace c || c = '/' || c = '>'
        | [] => false
  | _ => false

/-- The content of a raw element and the text from its end tag on. -/
def rawText (name : List Char) : List Char → List Char × List Char
  | [] => ([], [])
  | c :: cs =>
    if c = '<' && endsRaw name cs then ([], c :: cs)
    else let (text, rest) := rawText name cs; (shown c :: text, rest)

/-- How deep in comment and nested script the text of a script stands. -/
inductive Depth where
  | plain
  | comment
  | nested
  deriving DecidableEq, Repr, Inhabited

/-- Where in a script the next character stands. -/
inductive ScriptPhase where
  | text (depth : Depth)
  /-- Behind `<`. -/
  | less (depth : Depth)
  /-- Behind `<!`, and behind `<!-`. -/
  | opening
  | openingDash
  /-- In a comment behind one dash, and behind two. -/
  | dash (depth : Depth)
  | dashes (depth : Depth)
  /-- In the word behind `<` (`leaves = false`) or `</` (`leaves = true`) inside a comment, read so far,
  last letter first. -/
  | word (leaves : Bool) (letters : List Char)
  deriving DecidableEq, Repr, Inhabited

namespace ScriptPhase

/-- A character of the text. -/
def plainStep (depth : Depth) (c : Char) : ScriptPhase :=
  if c = '<' then .less depth
  else if depth ≠ .plain && c = '-' then .dash depth
  else .text depth

def wordStep (leaves : Bool) (letters : List Char) (c : Char) : ScriptPhase :=
  let from_ := if leaves then Depth.nested else .comment
  if isSpace c || c = '/' || c = '>' then
    if letters.reverse == "script".toList then .text (if leaves then .comment else .nested)
    else .text from_
  else if c.isAlpha then .word leaves (c.toLower :: letters)
  else plainStep from_ c

/-- What one character of a script does. -/
def step (p : ScriptPhase) (c : Char) : ScriptPhase :=
  match p with
  | .text depth => plainStep depth c
  | .less .plain => if c = '!' then .opening else plainStep .plain c
  | .less .comment => if c.isAlpha then .word false [c.toLower] else plainStep .comment c
  | .less .nested => if c = '/' then .word true [] else plainStep .nested c
  | .opening => if c = '-' then .openingDash else plainStep .plain c
  | .openingDash => if c = '-' then .dashes .comment else plainStep .plain c
  | .dash depth =>
    if c = '-' then .dashes depth else if c = '<' then .less depth else .text depth
  | .dashes depth =>
    if c = '-' then .dashes depth
    else if c = '<' then .less depth
    else if c = '>' then .text .plain
    else .text depth
  | .word leaves letters => wordStep leaves letters c

/-- Whether an end tag that begins at the next `<` ends the script. -/
def canEnd : ScriptPhase → Bool
  | .text depth => depth ≠ .nested
  | .less depth => depth ≠ .nested
  | .opening => true
  | .openingDash => true
  | .dash depth => depth ≠ .nested
  | .dashes depth => depth ≠ .nested
  | .word leaves _ => !leaves

end ScriptPhase

/-- The content of a script and the text from its end tag on. -/
def scriptText (p : ScriptPhase) : List Char → List Char × List Char
  | [] => ([], [])
  | c :: cs =>
    if c = '<' && p.canEnd && endsRaw "script".toList cs then ([], c :: cs)
    else let (text, rest) := scriptText (p.step c) cs; (shown c :: text, rest)

end Vitrine.Html.Lexer
