import Vitrine.Script.Tree

/-!
# Tokens

The words, marks and literals that a script is made of, and the comments between them. Keywords are
words: where one is meant, the grammar asks for its spelling. `Token.describe` is how a token is
named when something else was expected in its place.
-/

namespace Vitrine.Script

inductive Token where
  | stop
  | undetermined
  | word (text : String) (isEscaped : Bool)
  | privateName (text : String)
  | mark (lexeme : String)
  | number (value : Float) (raw : String) (sort : String)
  | bigint (digits : String)
  | string (value : Text) (raw : String)
  | regex (pattern flags : String)
  | templateWhole (part : TemplatePart)
  | templateHead (part : TemplatePart)
  | templateMiddle (part : TemplatePart)
  | templateTail (part : TemplatePart)
  | markupText (raw : List Char)
  deriving Inhabited

/-- A token with its place and what stands before it. -/
structure Lexeme where
  token : Token
  pos : Nat
  stop : Nat
  isOnNewLine : Bool
  isPure : Bool
  deriving Inhabited

/-- Words that never name anything. -/
def reservedWords : List String :=
  ["break", "case", "catch", "class", "const", "continue", "debugger", "default", "delete", "do",
   "else", "enum", "export", "extends", "false", "finally", "for", "function", "if", "import", "in",
   "instanceof", "new", "null", "return", "super", "switch", "this", "throw", "true", "try",
   "typeof", "var", "void", "while", "with"]

/-- Words that name nothing in the code of a module, although they read as names. -/
def strictReservedWords : List String :=
  ["implements", "interface", "let", "package", "private", "protected", "public", "static", "yield"]

/-- Words with a meaning in some places only. -/
def contextualWords : List String :=
  ["abstract", "accessor", "as", "assert", "asserts", "async", "await", "constructor", "declare",
   "defer", "from", "get", "global", "infer", "intrinsic", "is", "keyof", "meta", "module",
   "namespace", "never", "of", "out", "override", "readonly", "require", "satisfies", "set",
   "source", "target", "type", "undefined", "unique", "unknown", "using", "any", "bigint",
   "boolean", "number", "object", "string", "symbol"]

def isReservedWord (s : String) : Bool := reservedWords.contains s

/-- Whether a word has a meaning of its own anywhere. -/
def isKeyword (s : String) : Bool :=
  reservedWords.contains s || strictReservedWords.contains s || contextualWords.contains s

/-- Names of types that every script knows, which no declaration of a type can take. -/
def builtInTypes : List String :=
  ["any", "unknown", "never", "number", "bigint", "boolean", "string", "symbol", "void", "object",
   "undefined"]

/-- How a token is named in a message. -/
def Token.describe : Token → String
  | stop => "EOF"
  | undetermined => "Unknown"
  | word text _ => if isKeyword text then text else "Identifier"
  | privateName _ => "#identifier"
  | mark lexeme => lexeme
  | number _ _ sort => sort
  | bigint _ => "bigint"
  | string .. => "string"
  | regex .. => "/regexp/"
  | templateWhole _ | templateHead _ | templateMiddle _ | templateTail _ => "$\x7b\x7d"
  | markupText _ => "jsx"

inductive CommentKind where
  | ordinary | pure | noSideEffects
  deriving DecidableEq, Repr, Inhabited

/-- A comment with its delimiters. `owner` is the start of the token it stands before; a comment at
the end of a line of code has none. -/
structure Comment where
  text : List Char
  isLine : Bool
  kind : CommentKind
  afterNewline : Bool
  beforeNewline : Bool
  owner : Option Nat
  deriving Inhabited

end Vitrine.Script
