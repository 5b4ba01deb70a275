import Vitrine.Markdown.Inline.Bracket

/-!
# Emphasis

Runs of emphasis are matched from left to right: a run that may close is matched with the nearest run
before it that may open and fits. Two characters make strong emphasis, one makes plain emphasis; a run
that is longer is matched more than once. Runs of tildes match only runs of the same length. Runs that
find no partner are text.
-/

namespace Vitrine.Markdown

/-- An open run, and what stands behind it, the last one first. `isBoth` says that the run might also
have closed emphasis. -/
structure OpenRun where
  char : Char
  count : Nat
  runLength : Nat
  isBoth : Bool
  after : List Inline

/-- What stands before all open runs, the last one first, and the open runs, the innermost first. No run
of tildes matches one of the outermost `tildeBound` runs. -/
structure EmphasisState where
  base : List Inline := []
  runs : List OpenRun := []
  tildeBound : Nat := 0

namespace EmphasisState

/-- Adds what stands behind the innermost open run. -/
def add (e : EmphasisState) (x : Inline) : EmphasisState :=
  match e.runs with
  | [] => { e with base := x :: e.base }
  | r :: rest => { e with runs := { r with after := x :: r.after } :: rest }

/-- The characters of a run. -/
def runText (char : Char) (count : Nat) : Inline := .text ("".pushn char count)

/-- Whether a closing run fits an open one. If one of them may do both, their lengths together must not
be a multiple of three, unless both lengths are. -/
def fits (char : Char) (runLength : Nat) (isBoth : Bool) (r : OpenRun) : Bool :=
  r.char == char && (char != '~' || r.runLength == runLength)
    && ((!isBoth && !r.isBoth) || (runLength + r.runLength) % 3 != 0 || runLength % 3 == 0)

/-- The open runs inside a fitting one, the fitting one, and those around it. -/
def split? (fit : OpenRun → Bool) : List OpenRun → Option (List OpenRun × OpenRun × List OpenRun)
  | [] => none
  | r :: rest =>
    if fit r then some ([], r, rest)
    else (split? fit rest).map fun (inner, found, outer) => (r :: inner, found, outer)

/-- What stands behind an open run, with the runs inside it as text, the last one first. -/
def contentOf (inner : List OpenRun) (r : OpenRun) : List Inline :=
  inner.flatMap (fun i => i.after ++ [runText i.char i.count]) ++ r.after

/-- Emphasis of some strength around a content. -/
def wrap (char : Char) : Nat → List Inline → List Inline
  | 0, xs => xs
  | 1, xs => [if char = '~' then .struck xs else .emphasis xs]
  | n + 2, xs => wrap char n [if char = '~' then .struck xs else .strong xs]

/-- Matches a closing run as often as it can be; with how much of it is left. -/
def closeRun (char : Char) (runLength : Nat) (isBoth : Bool) :
    Nat → EmphasisState → Nat → EmphasisState × Nat
  | 0, e, count => (e, count)
  | n + 1, e, count =>
    let open_ := e.runs.length
    let reachable := if char = '~' then open_ - min open_ e.tildeBound else open_
    if count = 0 then (e, 0)
    else
      match split? (fits char runLength isBoth) (e.runs.take reachable) with
      | none =>
        (if char = '~' then { e with tildeBound := open_ } else e, count)
      | some (inner, r, _) =>
        let outer := e.runs.drop (inner.length + 1)
        let matched := min count r.count
        let content := wrap char matched (contentOf inner r).reverse
        let e := { e with runs := outer, tildeBound := min e.tildeBound outer.length }
        let e :=
          if matched < r.count then
            { e with runs := { r with count := r.count - matched, after := content } :: e.runs }
          else content.foldl add e
        closeRun char runLength isBoth n e (count - matched)

/-- Reads a run. -/
def readRun (e : EmphasisState) (char : Char) (length : Nat) (canOpen canClose : Bool) :
    EmphasisState :=
  let isBoth := canOpen && canClose
  let (e, left) := if canClose then closeRun char length isBoth (length + 1) e length else (e, length)
  if left = 0 then e
  else if canOpen then { e with runs := ⟨char, left, length, isBoth, []⟩ :: e.runs }
  else e.add (runText char left)

/-- Everything in order, with the runs that are still open as text. -/
def finish (e : EmphasisState) : List Inline :=
  (e.runs.flatMap (fun r => r.after ++ [runText r.char r.count]) ++ e.base).reverse

end EmphasisState

namespace Piece

/-- Whether the piece is a run of emphasis. -/
def isRun : Piece → Bool
  | run .. => true
  | _ => false

end Piece

/-- A part of a text in which only runs are left to be matched. -/
inductive Part where
  | done (x : Inline)
  | run (char : Char) (count : Nat) (canOpen canClose : Bool)

namespace Part

/-- Matches the runs. -/
def matchAll (parts : List Part) : List Inline :=
  (parts.foldl (fun e part =>
    match part with
    | done x => e.add x
    | run char count canOpen canClose => e.readRun char count canOpen canClose)
    ({} : EmphasisState)).finish

end Part

mutual

/-- A piece as a part, with the runs inside it matched. -/
def Piece.part : Piece → Part
  | .text s => .done (.text s)
  | .code s => .done (.code s)
  | .raw html => .done (.raw html)
  | .softBreak => .done .softBreak
  | .hardBreak _ => .done .hardBreak
  | .run char count canOpen canClose => .run char count canOpen canClose
  | .link isEmail target pieces =>
    .done (.link isEmail target (Part.matchAll (Piece.parts (pieces.any Piece.isRun) pieces)))
  | .image target pieces =>
    .done (.image target (Part.matchAll (Piece.parts (pieces.any Piece.isRun) pieces)))

/-- Pieces as parts. Behind runs, a backslash at the very end breaks no line. -/
def Piece.parts (hasRuns : Bool) : List Piece → List Part
  | [] => []
  | [.hardBreak true] => [.done (if hasRuns then .text "\\" else .hardBreak)]
  | p :: rest => p.part :: Piece.parts hasRuns rest

end

/-- The text of a passage. -/
def Passage.inlines (p : Passage) : List Inline :=
  let pieces := p.pieces
  Part.matchAll (Piece.parts (pieces.any Piece.isRun) pieces)

end Vitrine.Markdown
