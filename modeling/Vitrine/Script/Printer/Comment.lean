import Vitrine.Script.Printer.Literal
import Vitrine.Script.Scan
import Vitrine.Text.Blank

/-!
# Comments as written

A comment is written before the code that it belongs to. Whether it gets a line of its own depends on
whether it had one; what follows a comment on the same line is set off by a blank instead of by
indentation.
-/

namespace Vitrine.Script.Printer

def tabs (indent : Nat) : String := String.ofList (List.replicate indent '\t')

/-- Splits a text at line ends. -/
def splitLines : List Char → List Char → List (List Char)
  | acc, '\r' :: '\n' :: rest => acc.reverse :: splitLines [] rest
  | acc, c :: rest =>
    if isLineEnd c then acc.reverse :: splitLines [] rest else splitLines (c :: acc) rest
  | acc, [] => [acc.reverse]

def commentLine (indent : Nat) (line : List Char) : String :=
  let start := if "/*".toList.isPrefixOf line then "" else tabs indent
  let stop := if "*/".toList.isSuffixOf line then "" else "\n"
  start ++ String.ofList (breakTags (line.dropWhile Text.isBlank)) ++ stop

/-- The text of a comment; the lines of a longer one are indented. -/
def commentText (indent : Nat) (c : Comment) : String :=
  if !c.isLine && c.text.any isLineEnd then
    String.join ((splitLines [] c.text).map (commentLine indent))
  else String.ofList (breakTags c.text)

def contains (pattern : List Char) : List Char → Bool
  | [] => pattern.isEmpty
  | c :: rest => pattern.isPrefixOf (c :: rest) || contains pattern rest

/-- Comments that speak of rights get a line of their own. -/
def isLegal (c : Comment) : Bool :=
  "/*!".toList.isPrefixOf c.text || "//!".toList.isPrefixOf c.text
    || contains "@license".toList c.text || contains "@preserve".toList c.text

def laterComment (indent : Nat) (c : Comment) : String :=
  (if c.afterNewline then "\n" ++ tabs indent else if isLegal c then "\n" else "")
    ++ commentText indent c

/-- What separates a comment from the code behind it. -/
def afterComment (indent : Nat) (c : Comment) : String :=
  if c.isLine || c.beforeNewline then "\n" ++ tabs indent else " "

/-- What stands before a statement: its comments and its indentation. On the line of something else a
blank takes the place of the indentation. -/
def leading (cs : List Comment) (indent : Nat) (isOnLine : Bool) : String :=
  match cs with
  | [] => if isOnLine then " " else tabs indent
  | first :: rest =>
    let start :=
      if isOnLine then (if first.afterNewline then "\n " else " ") else tabs indent
    start ++ commentText indent first ++ String.join (rest.map (laterComment indent))
      ++ afterComment indent (rest.getLastD first)

/-- Comments at the end of a body or of a script. -/
def closing (cs : List Comment) (indent : Nat) : String :=
  match cs with
  | [] => ""
  | first :: rest =>
    let last := rest.getLastD first
    tabs indent ++ commentText indent first ++ String.join (rest.map (laterComment indent))
      ++ (if last.isLine || last.beforeNewline then "\n" else "")

/-- Comments before an argument, each on a line of its own. -/
def beforeArgument (cs : List Comment) (indent : Nat) : String :=
  String.join (cs.map fun c => "\n" ++ tabs indent ++ commentText indent c)

end Vitrine.Script.Printer
