import Vitrine.Markdown.Source

/-!
# Addresses in angle brackets

`<scheme:address>` and `<user@host>` are links to what they show.
-/

namespace Vitrine.Markdown.Source

/-- The position behind the `>` of an address with a scheme of two to thirty-two characters. -/
def absoluteAddress? (s : Source) (i : Nat) : Option Nat :=
  let colon :=
    s.skipWhile (fun c => c.isAlphanum || c == '.' || c == '-' || c == '+') i
  if s.holds i Char.isAlpha && s.isAt colon ':' && 2 ≤ colon - i && colon - i ≤ 32 then
    let stop := s.skipWhile (fun c => !(c == '>' || c == '<' || c.toNat ≤ 0x20)) colon
    if s.isAt stop '>' then some (stop + 1) else none
  else none

/-- The characters before the `@` of a mail address. -/
def isMailboxChar (c : Char) : Bool :=
  c.isAlphanum || ".!#$%&'*+/=?^_\x60\x7b|\x7d~-".toList.contains c

/-- The position behind the labels of a host: each has one to sixty-three letters, digits and hyphens,
with no hyphen at its ends. -/
def hostEndFrom? (s : Source) : Nat → Nat → Option Nat
  | 0, _ => none
  | n + 1, i =>
    let stop := s.skipWhile (fun c => c.isAlphanum || c == '-') i
    if stop = i || stop - i > 63 || s.isAt i '-' || s.isAt (stop - 1) '-' then none
    else if s.isAt stop '.' then s.hostEndFrom? n (stop + 1)
    else some stop

/-- The position behind the `>` of a mail address. -/
def mailAddress? (s : Source) (i : Nat) : Option Nat :=
  let sign := s.skipWhile isMailboxChar i
  if i < sign && s.isAt sign '@' then
    match s.hostEndFrom? (s.size + 1) (sign + 1) with
    | some stop => if s.isAt stop '>' then some (stop + 1) else none
    | none => none
  else none

/-- The address behind a `<`: the position behind its `>`, and whether it is a mail address. -/
def autolink? (s : Source) (stop i : Nat) : Option (Nat × Bool) :=
  let found := match s.absoluteAddress? i with
    | some j => some (j, false)
    | none => (s.mailAddress? i).map (·, true)
  match found with
  | some (j, isMail) => if j ≤ stop then some (j, isMail) else none
  | none => none

end Vitrine.Markdown.Source
