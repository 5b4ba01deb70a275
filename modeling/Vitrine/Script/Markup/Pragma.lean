import Vitrine.Script.Fault
import Vitrine.Script.Token

/-!
# Pragmas of markup

Comments can say how markup elements are turned into calls: through the functions of a runtime
module, which the script then imports, or through a function that is in scope already. A pragma is
a keyword that starts with `@jsx`, blanks, and a word; of several with one keyword the last counts.
-/

namespace Vitrine.Script.Markup

/-- How elements become calls. `function` and `fragment` only matter if the function is in scope. -/
structure Pragmas where
  isClassic : Bool := false
  function : Option String := none
  fragment : Option String := none
  source : Option String := none

namespace Pragmas

/-! ## Reading comments -/

/-- What stands between the delimiters of a comment. -/
def content (c : Comment) : List Char :=
  let inner := c.text.drop 2
  if c.isLine then inner else inner.take (inner.length - 2)

def isGap (c : Char) : Bool := c == ' ' || c == '\t'

def endsWord (c : Char) : Bool := isGap c || c == '\n' || c == '\r'

/-- The text behind the next `@jsx`. -/
def behindMark : List Char → Option (List Char)
  | '@' :: 'j' :: 's' :: 'x' :: rest => some rest
  | _ :: rest => behindMark rest
  | [] => none

/-- Takes over one pragma. -/
def set (p : Pragmas) (keyword word : String) : Pragmas :=
  match keyword with
  | "" => { p with function := some word }
  | "Frag" => { p with fragment := some word }
  | "ImportSource" => { p with source := some word }
  | "Runtime" =>
    if word == "classic" then { p with isClassic := true }
    else if word == "automatic" then { p with isClassic := false }
    else p
  | _ => p

def isKeyword (keyword : String) : Bool := ["", "Frag", "ImportSource", "Runtime"].contains keyword

/-- Takes over the pragmas of a text, with fuel for its length. -/
def readFrom : Nat → Pragmas → List Char → Pragmas
  | 0, p, _ => p
  | fuel + 1, p, text =>
    match behindMark text with
    | none => p
    | some rest =>
      let keyword := String.ofList (rest.takeWhile (!isGap ·))
      match rest.dropWhile (!isGap ·) with
      | [] => p
      | _ :: tail =>
        if !isKeyword keyword then readFrom fuel p tail
        else
          let tail := tail.dropWhile isGap
          let word := String.ofList (tail.takeWhile (!endsWord ·))
          if word.isEmpty then p
          else readFrom fuel (p.set keyword word) ((tail.dropWhile (!endsWord ·)).drop 1)

/-- The pragmas of a script. -/
def ofComments (comments : List Comment) : Pragmas :=
  comments.foldl (fun p c => readFrom c.text.length p (content c)) {}

/-! ## Use -/

/-- Pragmas that contradict each other. -/
def faults (p : Pragmas) : List Fault :=
  if p.isClassic then (if p.source.isSome then [.markupSource] else [])
  else if p.function.isSome || p.fragment.isSome then [.markupPragma]
  else []

/-- The package of the runtime. -/
def package (p : Pragmas) : String := p.source.getD "react"

/-- The name that elements need in scope, and the one that fragments need. -/
def scopeNames (p : Pragmas) : String × String :=
  let root := fun (word : Option String) =>
    String.ofList (((word.getD "React").toList).takeWhile (· != '.'))
  (root p.function, root p.fragment)

end Pragmas

end Vitrine.Script.Markup
