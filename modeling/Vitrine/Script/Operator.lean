/-!
# Operators and binding strength

The operators of the language, their spelling, and the levels of binding strength that both the
reader and the writer of expressions use. A level orders `Strength.lowest` (a whole statement)
below the comma, assignment, the conditional, the binary ladder, unary operators, calls and member
access.
-/

namespace Vitrine.Script

inductive UnaryOp where
  | minus | plus | not | bitNot | typeOf | void | delete
  deriving DecidableEq, Repr

inductive UpdateOp where
  | increment | decrement
  deriving DecidableEq, Repr

inductive BinaryOp where
  | equal | notEqual | same | notSame | less | lessEqual | greater | greaterEqual
  | shiftLeft | shiftRight | shiftRightZero | add | subtract | multiply | divide | remainder
  | power | bitOr | bitXor | bitAnd | memberOf | instanceOf
  deriving DecidableEq, Repr

inductive LogicalOp where
  | or | and | coalesce
  deriving DecidableEq, Repr

/-- Plain assignment, or assignment through a binary or a logical operator. -/
inductive AssignOp where
  | plain
  | binary (op : BinaryOp)
  | logical (op : LogicalOp)
  deriving DecidableEq, Repr

namespace UnaryOp

def lexeme : UnaryOp → String
  | minus => "-" | plus => "+" | not => "!" | bitNot => "~"
  | typeOf => "typeof" | void => "void" | delete => "delete"

/-- Operators spelled as a word. -/
def isWord : UnaryOp → Bool
  | typeOf | void | delete => true
  | _ => false

end UnaryOp

def UpdateOp.lexeme : UpdateOp → String
  | .increment => "++" | .decrement => "--"

/-- Binding strength, as a number that grows with tightness. -/
abbrev Strength := Nat

namespace Strength
def lowest : Strength := 0
def comma : Strength := 1
def spread : Strength := 2
def yield : Strength := 3
def assign : Strength := 4
def conditional : Strength := 5
def coalesce : Strength := 6
def logicalOr : Strength := 7
def logicalAnd : Strength := 8
def bitOr : Strength := 9
def bitXor : Strength := 10
def bitAnd : Strength := 11
def equality : Strength := 12
def comparison : Strength := 13
def shift : Strength := 14
def add : Strength := 15
def multiply : Strength := 16
def power : Strength := 17
def unary : Strength := 18
def suffix : Strength := 19
def new : Strength := 20
def call : Strength := 21
def member : Strength := 22
end Strength

namespace BinaryOp

def lexeme : BinaryOp → String
  | equal => "==" | notEqual => "!=" | same => "===" | notSame => "!=="
  | less => "<" | lessEqual => "<=" | greater => ">" | greaterEqual => ">="
  | shiftLeft => "<<" | shiftRight => ">>" | shiftRightZero => ">>>"
  | add => "+" | subtract => "-" | multiply => "*" | divide => "/" | remainder => "%"
  | power => "**" | bitOr => "|" | bitXor => "^" | bitAnd => "&"
  | memberOf => "in" | instanceOf => "instanceof"

def strength : BinaryOp → Strength
  | equal | notEqual | same | notSame => .equality
  | less | lessEqual | greater | greaterEqual | memberOf | instanceOf => .comparison
  | shiftLeft | shiftRight | shiftRightZero => .shift
  | add | subtract => .add
  | multiply | divide | remainder => .multiply
  | power => .power
  | bitOr => .bitOr | bitXor => .bitXor | bitAnd => .bitAnd

/-- All operators, in no particular order. -/
def all : List BinaryOp :=
  [equal, notEqual, same, notSame, less, lessEqual, greater, greaterEqual, shiftLeft, shiftRight,
   shiftRightZero, add, subtract, multiply, divide, remainder, power, bitOr, bitXor, bitAnd,
   memberOf, instanceOf]

/-- The operator with a given spelling. -/
def ofLexeme? (s : String) : Option BinaryOp := all.find? (·.lexeme == s)

end BinaryOp

namespace LogicalOp

def lexeme : LogicalOp → String
  | or => "||" | and => "&&" | coalesce => "??"

def strength : LogicalOp → Strength
  | or => .logicalOr | and => .logicalAnd | coalesce => .coalesce

def ofLexeme? : String → Option LogicalOp
  | "||" => some or
  | "&&" => some and
  | "??" => some coalesce
  | _ => none

end LogicalOp

namespace AssignOp

def lexeme : AssignOp → String
  | plain => "="
  | binary op => op.lexeme ++ "="
  | logical op => op.lexeme ++ "="

/-- The assignment operator with a given spelling. -/
def ofLexeme? : String → Option AssignOp
  | "=" => some plain
  | "+=" => some (binary .add)
  | "-=" => some (binary .subtract)
  | "*=" => some (binary .multiply)
  | "/=" => some (binary .divide)
  | "%=" => some (binary .remainder)
  | "**=" => some (binary .power)
  | "<<=" => some (binary .shiftLeft)
  | ">>=" => some (binary .shiftRight)
  | ">>>=" => some (binary .shiftRightZero)
  | "&=" => some (binary .bitAnd)
  | "|=" => some (binary .bitOr)
  | "^=" => some (binary .bitXor)
  | "&&=" => some (logical .and)
  | "||=" => some (logical .or)
  | "??=" => some (logical .coalesce)
  | _ => none

end AssignOp

end Vitrine.Script
