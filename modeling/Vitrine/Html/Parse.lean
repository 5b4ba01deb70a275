import Vitrine.Html.Construction.Step
import Vitrine.Html.Lexer.Declaration
import Vitrine.Html.Lexer.RawText

/-!
# Reading a document (section 4.6)

`parse` gives the document that any text stands for. The text is read in pieces, and each piece gives
some tokens; what the tree looks like by then decides how the next piece is read.

This is the parser that `parse` of the `DocumentBuilder` calls.
-/

namespace Vitrine.Html

/-- The text with each line end as one line feed. -/
def lineFeeds : List Char → List Char
  | '\r' :: '\n' :: cs => '\n' :: lineFeeds cs
  | '\r' :: cs => '\n' :: lineFeeds cs
  | c :: cs => c :: lineFeeds cs
  | [] => []

/-- The text without a mark of the byte order in front. -/
def withoutMark : List Char → List Char
  | '\ufeff' :: cs => cs
  | cs => cs

namespace Lexer

/-- The tokens that markup begins with, of which `<` is read, and the text behind them. -/
def markup (sections : Bool) : List Char → List Token × List Char
  | '!' :: cs => declaration sections cs
  | '/' :: c :: cs =>
    if c.isAlpha then
      match tag? (c :: cs) with
      | some (tag, rest) => ([.endTag tag], rest)
      | none => ([], [])
    else if c = '>' then ([.fault], cs)
    else let (t, rest) := bogusComment (c :: cs); ([t], rest)
  | ['/'] => ([.character '<', .character '/'], [])
  | c :: cs =>
    if c.isAlpha then
      match tag? (c :: cs) with
      | some (tag, rest) => ([.startTag tag], rest)
      | none => ([], [])
    else if c = '?' then let (t, rest) := bogusComment (c :: cs); ([t], rest)
    else ([.character '<'], c :: cs)
  | [] => ([.character '<'], [])

/-- The tokens that a text begins with, and the rest. -/
def piece (sections : Bool) : List Char → List Token × List Char
  | '<' :: cs => markup sections cs
  | cs =>
    let text := cs.takeWhile (· ≠ '<')
    ((Reference.decode false text).map .character, cs.drop text.length)

end Lexer

namespace Construction

/-- Takes in all tokens of a piece. -/
def takeAll (s : Construction) (ts : List Token) : Construction := ts.foldl take s

/-- Reads the next piece as the state asks for. Reading starts anew behind a script, so that a mark of
the byte order is dropped there as it is at the beginning. -/
def readPiece (s : Construction) (text : List Char) : Construction × List Char :=
  let sections := match s.current? with
    | some e => e.name.vocabulary ≠ .html
    | none => false
  match s.reading with
  | .markup =>
    let (ts, rest) := Lexer.piece sections text
    let endsScript := s.mode = .text && (match ts with | [.endTag tag] => tag.name = "script" | _ => false)
    (s.takeAll ts, if endsScript then withoutMark rest else rest)
  | .raw tag references =>
    let (content, rest) := Lexer.rawText tag.toList text
    let content := if references then Reference.decode false content else content
    ({ s with reading := .markup }.takeAll (content.map .character), rest)
  | .script =>
    let (content, rest) := Lexer.scriptText (.text .plain) text
    ({ s with reading := .markup }.takeAll (content.map .character), rest)
  | .plain => (s.takeAll (text.map fun c => .character (Lexer.shown c)), [])

/-- Reads the text piece by piece. A piece of markup takes at least one character, and a piece of raw
text is followed by one of markup, so twice the length of the text is enough fuel. -/
def readAll : Nat → Construction → List Char → Construction
  | 0, s, _ => s
  | n + 1, s, text =>
    if text.isEmpty then s
    else
      let (s, rest) := s.readPiece text
      readAll n s rest

end Construction

/-- The document that a text stands for. A mark of the byte order at the beginning is not part of it. -/
def parse (text : String) : List Node :=
  let cs := lineFeeds (withoutMark text.toList)
  let s := Construction.readAll (2 * cs.length + 1) {} cs
  (s.take .endOfFile).store.nodes

end Vitrine.Html
