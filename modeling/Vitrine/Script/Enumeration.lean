import Vitrine.Script.Constant
import Vitrine.Script.Node

/-!
# Values of enumeration members

A member without an initializer follows the number before it; one whose initializer can be evaluated
is that constant; any other keeps its initializer. Members that were evaluated are known to later
members of the same enumeration by their bare names, and to everything behind the enumeration by the
name of the enumeration.
-/

namespace Vitrine.Script

/-- Members so far, with their constants as far as they are known. -/
abbrev KnownMembers := List (Text × Option Constant)

/-- The members of the enumerations before, the latest first. -/
abbrev KnownEnums := List (String × KnownMembers)

def KnownMembers.constant? (known : KnownMembers) (name : Text) : Option (Option Constant) :=
  (List.find? (fun m => m.1 == name) known).map (·.2)

def KnownEnums.members (known : KnownEnums) (name : String) : KnownMembers :=
  ((List.find? (fun e => e.1 == name) known).map (·.2)).getD []

/-! ## Evaluation -/

/-- The name that a property key denotes, if that is fixed. -/
def fixedKey? : Expr → Option Text
  | .literal _ (.string t _) _ => some t
  | .template _ [part] [] => part.cooked
  | _ => none

/-- The member of an enumeration that an access denotes. -/
def accessed? (known : KnownEnums) (object : Expr) (name : Text) : Option Constant :=
  match object with
  | .name _ e => ((known.members e).constant? name).join
  | _ => none

mutual

/-- The constant that an expression denotes. -/
def evaluate (enums : KnownEnums) (members : KnownMembers) : Expr → Option Constant
  | .name _ t =>
    if t == "Infinity" then some (.number (1.0 / 0.0))
    else if t == "NaN" then some (.number (0.0 / 0.0))
    else (members.constant? (Text.ofString t)).join
  | .member o name _ => accessed? enums o (Text.ofString name)
  | .index o key _ => (fixedKey? key).bind (accessed? enums o)
  | .binary op a b => do
    let x ← evaluate enums members a
    let y ← evaluate enums members b
    x.binary op y
  | .unary _ op e => (evaluate enums members e).bind (·.unary op)
  | .literal _ (.number x _) _ => some (.number x)
  | .literal _ (.string t _) _ => some (.string t)
  | .template _ parts holes => do
    let texts ← evaluateAll enums members holes
    return .string (joinTemplate parts texts)
  | .paren _ e => evaluate enums members e
  | _ => none

/-- The texts of constants, if all expressions denote some. -/
def evaluateAll (enums : KnownEnums) (members : KnownMembers) : List Expr → Option (List Text)
  | [] => some []
  | e :: es => do
    let x ← evaluate enums members e
    let xs ← evaluateAll enums members es
    return x.text :: xs

/-- Literal parts and values in turn. -/
def joinTemplate : List TemplatePart → List Text → Text
  | [], _ => []
  | p :: ps, ts =>
    p.cooked.getD (p.raw.map Char.toNat) ++ match ts with
      | [] => joinTemplate ps []
      | t :: ts => t ++ joinTemplate ps ts

end

/-! ## Members -/

/-- What an enumeration member is. -/
inductive MemberValue where
  | constant (value : Constant)
  /-- The initializer stays; in it the given members go by the name of the enumeration. -/
  | computed (known : List Text)
  /-- One more than the member before. -/
  | after (name : Text)

/-- The last member: none, a known constant, or only its name. -/
inductive Previous where
  | none
  | constant (value : Constant)
  | unknown (name : Text)

/-- The values of members, and the members that are known after them. -/
def memberValues (enums : KnownEnums) : KnownMembers → Previous → List Member →
    List MemberValue × KnownMembers
  | known, _, [] => ([], known)
  | known, _, .enumMember _ name (some e) :: ms =>
    match evaluate enums known e with
    | some c =>
      let (vs, k) := memberValues enums ((name, some c) :: known) (.constant c) ms
      (.constant c :: vs, k)
    | none =>
      let known := (name, none) :: known
      let (vs, k) := memberValues enums known (.unknown name) ms
      (.computed (known.map (·.1)) :: vs, k)
  | known, previous, .enumMember _ name none :: ms =>
    let next : Option Constant := match previous with
      | .none => some (.number 0)
      | .constant (.number x) => some (.number (x + 1))
      | _ => Option.none
    match next with
    | some c =>
      let (vs, k) := memberValues enums ((name, some c) :: known) (.constant c) ms
      (.constant c :: vs, k)
    | none =>
      let (vs, k) := memberValues enums ((name, none) :: known) (.unknown name) ms
      (.after (match previous with
        | .unknown n => n
        | _ => name) :: vs, k)
  | known, previous, _ :: ms => memberValues enums known previous ms

/-- The enumeration at a node: where its name stands, the name, and the members. -/
def enumAt : Node → List (Name × List Member)
  | .stmt (.enumDecl _ _ false name ms) => [(name, ms)]
  | _ => []

/-- What is known of one declaration of an enumeration: where its name stands, the values of its
members, and that making it only calls what is written between its braces. -/
structure EnumFacts where
  pos : Nat
  values : List MemberValue
  isPure : Bool

/-- Whether an initializer is a call. -/
def isCalling : Member → Bool
  | .enumMember _ _ (some (.call ..)) | .enumMember _ _ (some (.new ..)) => true
  | _ => false

/-- Evaluates enumerations in order; a later declaration of a name adds to the members of the
earlier ones. -/
def enumFacts (found : List (Name × List Member)) : List EnumFacts :=
  (found.foldl (fun (acc : List EnumFacts × KnownEnums) (name, ms) =>
    let (values, known) := memberValues acc.2 (acc.2.members name.text) .none ms
    (acc.1 ++ [⟨name.pos, values, !ms.any isCalling⟩], (name.text, known) :: acc.2)) ([], [])).1

/-- All enumerations of a script, outer ones first. -/
def Program.enumFacts (p : Program) : List EnumFacts :=
  Script.enumFacts (p.stmts.flatMap fun s => (Node.stmt s).collect enumAt)

end Vitrine.Script
