/-!
# Replacing parts of a text

A replacement says where a stretch starts and stops and what comes in its place. Several are made
from the last to the first, so that the places of those still to be made stay right.

`substitute pattern by` walks from left to right, replaces each occurrence as it meets it and goes
on behind it, so occurrences never overlap and the replacement is never searched again.
-/

namespace Vitrine.Text

/-! ## Stretches -/

structure Replacement where
  start : Nat
  stop : Nat
  text : List Char

/-- Makes one replacement. -/
def Replacement.apply (r : Replacement) (s : List Char) : List Char :=
  s.take r.start ++ r.text ++ s.drop r.stop

/-- Makes all replacements, the last in the text first. -/
def splice (rs : List Replacement) (s : List Char) : List Char :=
  (rs.mergeSort fun a b => b.start ≤ a.start).foldl (fun s r => r.apply s) s

/-! ## Every occurrence of a text -/

/-- The rest of `s` behind `pattern`, if `s` starts with it. -/
def afterStart? : List Char → List Char → Option (List Char)
  | [], s => some s
  | _ :: _, [] => none
  | p :: ps, c :: cs => if p = c then afterStart? ps cs else none

/-- Whether `pattern` occurs in `s`. -/
def occurs (pattern : List Char) : List Char → Bool
  | [] => pattern.isEmpty
  | c :: cs => (afterStart? pattern (c :: cs)).isSome || occurs pattern cs

/-- Characters still to be passed over because they belong to the occurrence just replaced. -/
def substituteFrom (pattern by_ : List Char) : Nat → List Char → List Char
  | _, [] => []
  | n + 1, _ :: cs => substituteFrom pattern by_ n cs
  | 0, c :: cs =>
    match afterStart? pattern (c :: cs) with
    | some _ => by_ ++ substituteFrom pattern by_ (pattern.length - 1) cs
    | none => c :: substituteFrom pattern by_ 0 cs

/-- Replaces every occurrence of a non-empty `pattern`. -/
def substitute (pattern by_ : String) (s : String) : String :=
  String.ofList (substituteFrom pattern.toList by_.toList 0 s.toList)

end Vitrine.Text
