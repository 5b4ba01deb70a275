import Vitrine.Script.Fault
import Vitrine.Script.Token
import Vitrine.Text.Identifier

/-!
# Reading tokens

`Scan` is a place in a script together with what reading has found so far: faults and comments.
`Scan.next` reads one token. The other readers take over where the grammar knows better: regular
expressions, the continuation of a template, text inside markup, attribute values, and the longer
marks that start with `>`.

A comment belongs to the token behind it unless it ends a line of code; then it belongs to no token.
-/

namespace Vitrine.Script

/-- A place in a script. `limit` bounds the characters of the whole text; comments and faults stand
newest first; `pending` holds the comments since the last token. -/
structure Scan where
  rest : List Char
  pos : Nat
  limit : Nat
  faults : List Fault := []
  settled : List Comment := []
  pending : List Comment := []
  sawNewline : Bool := true
  afterOpener : Bool := false
  deriving Inhabited

def isLineEnd (c : Char) : Bool := c = '\n' || c = '\r' || c.toNat = 0x2028 || c.toNat = 0x2029

/-- Blanks that separate tokens. -/
def isSpace (c : Char) : Bool :=
  let n := c.toNat
  n = 32 || n = 9 || n = 11 || n = 12 || n = 0xA0 || n = 0xFEFF || n = 0x85 || n = 0x1680
    || (0x2000 ≤ n && n ≤ 0x200B) || n = 0x202F || n = 0x205F || n = 0x3000

def hexValue? (c : Char) : Option Nat :=
  if '0' ≤ c && c ≤ '9' then some (c.toNat - 48)
  else if 'a' ≤ c && c ≤ 'f' then some (c.toNat - 87)
  else if 'A' ≤ c && c ≤ 'F' then some (c.toNat - 55)
  else none

/-- Joins each high surrogate with a low one that follows it. -/
def Text.paired : Text → Text
  | [] => []
  | [n] => [n]
  | h :: l :: rest =>
    if 0xD800 ≤ h && h ≤ 0xDBFF && 0xDC00 ≤ l && l ≤ 0xDFFF then
      (0x10000 + (h - 0xD800) * 0x400 + (l - 0xDC00)) :: Text.paired rest
    else h :: Text.paired (l :: rest)

namespace Scan

def ofText (text : List Char) : Scan :=
  { rest := text, pos := 0, limit := text.length + 1 }

/-- Passes over `n` characters. -/
def drop (s : Scan) (n : Nat) : Scan := { s with rest := s.rest.drop n, pos := s.pos + n }

/-- Passes over one character if there is one. -/
def bump (s : Scan) : Scan :=
  match s.rest with
  | [] => s
  | _ :: rest => { s with rest, pos := s.pos + 1 }

def fault (s : Scan) (f : Fault) : Scan := { s with faults := f :: s.faults }

/-- The fault of meeting the next character, or the end. -/
def faultHere (s : Scan) : Scan :=
  match s.rest with
  | [] => s.fault .unexpectedEnd
  | c :: _ => s.fault (.invalidCharacter c)

def head? (s : Scan) : Option Char := s.rest.head?

def startsWith (s : Scan) (c : Char) : Bool := s.rest.head? == some c

/-! ## Blanks and comments -/

/-- A line feed or carriage return: comments on a line of code are settled there without an owner.
The other line ends leave comments pending. -/
def lineEnd (s : Scan) : Scan :=
  match s.pending with
  | [] => { s with sawNewline := true }
  | c :: cs =>
    let pending := { c with beforeNewline := true } :: cs
    if s.sawNewline then { s with pending }
    else { s with pending := [], settled := pending ++ s.settled, sawNewline := true }

/-- The text up to and with the closing delimiter of a block comment, and the rest. -/
def blockEnd? : List Char → List Char → Option (List Char × List Char)
  | acc, '*' :: '/' :: rest => some (('/' :: '*' :: acc).reverse, rest)
  | acc, c :: rest => blockEnd? (c :: acc) rest
  | _, [] => none

/-- Whether a comment is an annotation, by its text behind the opening delimiter. -/
def commentKind (body : List Char) : CommentKind :=
  let body := body.dropWhile (fun c => isSpace c || isLineEnd c)
  match body with
  | c :: rest =>
    if c = '@' || c = '#' then
      if "__PURE__".toList.isPrefixOf rest then .pure
      else if "__NO_SIDE_EFFECTS__".toList.isPrefixOf rest then .noSideEffects
      else .ordinary
    else .ordinary
  | [] => .ordinary

def addComment (s : Scan) (text : List Char) (isLine : Bool) : Scan :=
  let kind := commentKind (text.drop 2)
  let c : Comment := ⟨text, isLine, kind, s.sawNewline, isLine, none⟩
  if isLine then
    if !s.sawNewline && !s.afterOpener then
      { s with pending := [], settled := c :: s.pending ++ s.settled, sawNewline := true }
    else { s with pending := c :: s.pending, sawNewline := true }
  else { s with pending := c :: s.pending }

/-- Passes over blanks and comments. Says whether a line ended, and whether a comment is open. -/
def trivia : Nat → Scan → Bool → Scan × Bool × Bool
  | 0, s, line => (s, line, false)
  | n + 1, s, line =>
    match s.rest with
    | '/' :: '/' :: body =>
      let text := '/' :: '/' :: body.takeWhile (!isLineEnd ·)
      trivia n ((s.addComment text true).drop text.length) line
    | '/' :: '*' :: body =>
      match blockEnd? ['*', '/'] body with
      | none => ({ s with rest := [], pos := s.pos + s.rest.length }, line, true)
      | some (text, rest) =>
        trivia n { s.addComment text false with rest, pos := s.pos + text.length }
          (line || text.any isLineEnd)
    | c :: rest =>
      if c = '\n' || c = '\r' then trivia n { s.lineEnd with rest, pos := s.pos + 1 } true
      else if isLineEnd c then trivia n { s with rest, pos := s.pos + 1 } true
      else if isSpace c then trivia n { s with rest, pos := s.pos + 1 } line
      else (s, line, false)
    | [] => (s, line, false)

/-! ## Escapes and words -/

/-- Reads hexadecimal digits up to a brace, which is passed over too. -/
def codePoint? : Nat → Scan → Nat → Bool → Option Nat × Scan
  | 0, s, _, _ => (none, s)
  | n + 1, s, value, hasDigit =>
    match s.rest with
    | '\x7d' :: _ => (if hasDigit then some value else none, s.bump)
    | c :: _ =>
      match hexValue? c with
      | some d =>
        let value := value * 16 + d
        if 0x10FFFF < value then (none, s) else codePoint? n s.bump value true
      | none => (none, s)
    | [] => (none, s)

/-- Reads exactly `n` hexadecimal digits. -/
def hexDigits? : Nat → Scan → Nat → Option Nat × Scan
  | 0, s, value => (some value, s)
  | n + 1, s, value =>
    match s.rest with
    | c :: _ =>
      match hexValue? c with
      | some d => hexDigits? n s.bump (value * 16 + d)
      | none => (none, s)
    | [] => (none, s)

/-- Reads what follows `\u`. -/
def unicodeEscape? (s : Scan) : Option Nat × Scan :=
  match s.rest with
  | '\x7b' :: _ => codePoint? s.limit s.bump 0 false
  | _ => hexDigits? 4 s 0

/-- Reads identifier characters; `isFirst` asks for a starting one. The result says whether an escape
was used. -/
def wordChars : Nat → Scan → Bool → List Char → Bool → List Char × Bool × Scan
  | 0, s, _, acc, isEscaped => (acc.reverse, isEscaped, s)
  | n + 1, s, isFirst, acc, isEscaped =>
    match s.rest with
    | '\\' :: rest =>
      match rest with
      | 'u' :: _ =>
        match unicodeEscape? (s.drop 2) with
        | (none, t) => (acc.reverse, true, t.fault .invalidUnicodeEscape)
        | (some v, t) =>
          if isSurrogate v then (acc.reverse, true, t.fault .invalidUnicodeEscape)
          else
            let c := Char.ofNat v
            if (if isFirst then Text.isIdentifierStart c else Text.isIdentifierPart c) then
              wordChars n t false (c :: acc) true
            else (acc.reverse, true, t.fault (.invalidCharacter c))
      | _ => (acc.reverse, true, s.bump.bump.fault .invalidUnicodeEscape)
    | c :: rest =>
      if (if isFirst then Text.isIdentifierStart c else Text.isIdentifierPart c) then
        wordChars n { s with rest, pos := s.pos + 1 } false (c :: acc) isEscaped
      else (acc.reverse, isEscaped, s)
    | [] => (acc.reverse, isEscaped, s)

/-- A word, or nothing sensible if one of its escapes is wrong. -/
def word (s : Scan) : Token × Scan :=
  let (text, isEscaped, t) := wordChars s.limit s true [] false
  if t.faults.length = s.faults.length then (.word (String.ofList text) isEscaped, t)
  else (.undetermined, t)

def privateWord (s : Scan) : Token × Scan :=
  let s := s.bump
  match s.rest with
  | c :: _ =>
    if Text.isIdentifierStart c || c = '\\' then
      match word s with
      | (.word text _, t) => (.privateName text, t)
      | r => r
    else (.undetermined, s.faultHere)
  | [] => (.undetermined, s.faultHere)

/-! ## Strings and templates -/

/-- Up to `n` more octal digits, as long as the value stays below 256. -/
def octalDigits : Nat → Scan → Nat → Nat × Scan
  | 0, s, value => (value, s)
  | n + 1, s, value =>
    match s.rest with
    | c :: _ =>
      if '0' ≤ c && c ≤ '7' && value * 8 + (c.toNat - 48) < 256 then
        octalDigits n s.bump (value * 8 + (c.toNat - 48))
      else (value, s)
    | [] => (value, s)

/-- What an escape denotes, read from behind its backslash; nothing if it is malformed. In a template
octal escapes are malformed. -/
def escape (s : Scan) (isTemplate : Bool) : Option Text × Scan :=
  match s.rest with
  | [] => (none, s)
  | c :: rest =>
    let t := s.bump
    if c = '\r' then (some [], if rest.head? == some '\n' then t.bump else t)
    else if isLineEnd c then (some [], t)
    else if c = 'x' then
      match hexDigits? 2 t 0 with
      | (some v, u) => (some [v], u)
      | (none, u) => (none, u)
    else if c = 'u' then
      match unicodeEscape? t with
      | (some v, u) => (some [v], u)
      | (none, u) => (none, u)
    else if c = '0' && !(rest.head?.any Char.isDigit) then (some [0], t)
    else if c.isDigit then
      if isTemplate then (none, t)
      else if c ≤ '7' then
        let (v, u) := octalDigits 2 t (c.toNat - 48)
        (some [v], u)
      else (some [c.toNat], t)
    else if c = 'n' then (some [10], t)
    else if c = 't' then (some [9], t)
    else if c = 'r' then (some [13], t)
    else if c = 'b' then (some [8], t)
    else if c = 'v' then (some [11], t)
    else if c = 'f' then (some [12], t)
    else (some [c.toNat], t)

/-- Reads up to the closing quote: the value backwards, and the place behind the quote. -/
def stringBody (quote : Char) : Nat → Scan → Text → Option (Text × Scan) × Scan
  | 0, s, _ => (none, s)
  | n + 1, s, acc =>
    match s.rest with
    | [] => (none, s)
    | c :: rest =>
      if c = quote then
        let t := { s with rest, pos := s.pos + 1 }
        (some (Text.paired acc.reverse, t), t)
      else if c = '\n' || c = '\r' then (none, s)
      else if c = '\\' then
        match escape { s with rest, pos := s.pos + 1 } false with
        | (some v, t) => stringBody quote n t (v.reverse ++ acc)
        | (none, t) => stringBody quote n (t.fault .invalidEscape) acc
      else stringBody quote n { s with rest, pos := s.pos + 1 } (c.toNat :: acc)

/-- A string literal; `s` stands at its opening quote. -/
def string (s : Scan) (quote : Char) : Token × Scan :=
  let body := s.bump
  match stringBody quote s.limit body [] with
  | (some (value, t), _) =>
    (.string value (String.ofList (body.rest.take (t.pos - body.pos - 1))), t)
  | (none, t) => (.undetermined, t.fault .unterminatedString)

/-- Reads literal template text up to a closing backquote or the start of a hole. The flag says
whether a hole follows. Line ends count as line feeds. -/
def templateText : Nat → Scan → List Char → Option Text → Option (TemplatePart × Bool × Scan) × Scan
  | 0, s, _, _ => (none, s)
  | n + 1, s, raw, cooked =>
    let done := fun (isHole : Bool) (t : Scan) =>
      (some ((⟨raw.reverse, cooked.map (Text.paired ·.reverse)⟩ : TemplatePart), isHole, t), t)
    match s.rest with
    | [] => (none, s)
    | '\x60' :: _ => done false s.bump
    | '$' :: '\x7b' :: _ => done true (s.drop 2)
    | '\r' :: rest =>
      let t := s.drop (if rest.head? == some '\n' then 2 else 1)
      templateText n t ('\n' :: raw) (cooked.map (10 :: ·))
    | '\\' :: rest =>
      let (v, t) := escape { s with rest, pos := s.pos + 1 } true
      let t := match v, rest with
        | none, _ :: _ => if t.pos = s.pos + 1 then t.bump else t
        | _, _ => t
      let written := (s.rest.take (t.pos - s.pos)).filter (· != '\r')
      let written := if rest.head? == some '\r' && !(written.contains '\n') then
        written ++ ['\n'] else written
      templateText n t (written.reverse ++ raw)
        (match v, cooked with
          | some v, some acc => some (v.reverse ++ acc)
          | _, _ => none)
    | c :: rest =>
      templateText n { s with rest, pos := s.pos + 1 } (c :: raw) (cooked.map (c.toNat :: ·))

/-- Template text from behind a backquote or behind the brace that ends a hole. -/
def template (s : Scan) (whole head : TemplatePart → Token) : Token × Scan :=
  match templateText s.limit s [] (some []) with
  | (some (part, isHole, t), _) => (if isHole then head part else whole part, t)
  | (none, t) => (.undetermined, t.fault .unterminatedString)

/-! ## Numbers -/

def digitOf? (base : Nat) (c : Char) : Option Nat :=
  match hexValue? c with
  | some d => if d < base then some d else none
  | none => none

/-- Digits with single separators between them, behind a first digit. A bad separator is a fault and
ends the digits; the flag says so. -/
def moreDigits (base : Nat) : Nat → Scan → List Char → List Char × Bool × Scan
  | 0, s, acc => (acc, true, s)
  | n + 1, s, acc =>
    match s.rest with
    | '_' :: _ =>
      let t := s.bump
      match t.rest with
      | c :: _ =>
        if (digitOf? base c).isSome then moreDigits base n t.bump (c :: acc)
        else (acc, false, t.faultHere)
      | [] => (acc, false, t.faultHere)
    | c :: rest =>
      if (digitOf? base c).isSome then
        moreDigits base n { s with rest, pos := s.pos + 1 } (c :: acc)
      else (acc, true, s)
    | [] => (acc, true, s)

/-- A number must not run into a word or a digit. -/
def numberEnd (s : Scan) (token : Token) : Token × Scan :=
  match s.rest with
  | c :: _ =>
    if c.isDigit || Text.isIdentifierStart c then
      let run := s.bump.rest.takeWhile Text.isIdentifierStart
      (.undetermined, (s.drop (1 + run.length)).fault .numberEnd)
    else (token, s)
  | [] => (token, s)

def valueOfDigits (base : Nat) (ds : List Char) : Nat :=
  ds.foldl (fun v c => v * base + (digitOf? base c).getD 0) 0

/-- An exponent behind its letter: its value backwards as text. -/
def exponentPart (s : Scan) : Int × Scan :=
  let (isNegative, s) := match s.rest with
    | '+' :: _ => (false, s.bump)
    | '-' :: _ => (true, s.bump)
    | _ => (false, s)
  match s.rest with
  | c :: _ =>
    if c.isDigit then
      let (ds, _, t) := moreDigits 10 s.limit s.bump [c]
      let v : Int := valueOfDigits 10 ds.reverse
      (if isNegative then -v else v, t)
    else (0, s.faultHere)
  | [] => (0, s.faultHere)

/-- The float nearest to `digits · 10 ^ exponent`. Far beyond the range of floats the exponent is cut,
which does not change the result. -/
def decimalValue (digits : Nat) (exponent : Int) : Float :=
  if digits = 0 then 0
  else if exponent < 0 then
    if exponent < -(400 + (Nat.toDigits 10 digits).length : Int) then 0
    else Float.ofScientific digits true exponent.natAbs
  else if exponent > 400 then 1.0 / 0.0
  else Float.ofScientific digits false exponent.natAbs

/-- What follows the digits before the point: a fraction and an exponent. -/
def fractionAndExponent (s : Scan) (start : Scan) (whole : List Char) (hasPoint : Bool) :
    Token × Scan :=
  let (fraction, s) :=
    if hasPoint then
      match s.rest with
      | c :: _ =>
        if c.isDigit then
          let (ds, _, t) := moreDigits 10 s.limit s.bump [c]
          (ds, t)
        else ([], s)
      | [] => ([], s)
    else ([], s)
  let (hasExponent, exponent, s) :=
    match s.rest with
    | c :: _ =>
      if c = 'e' || c = 'E' then
        let (e, t) := exponentPart s.bump
        (true, e, t)
      else (false, 0, s)
    | [] => (false, 0, s)
  let value := decimalValue (valueOfDigits 10 (whole ++ fraction.reverse))
    (exponent - fraction.length)
  let sort := if hasPoint then "float" else if hasExponent then "positive exponential" else "decimal"
  numberEnd s (.number value (String.ofList (start.rest.take (s.pos - start.pos))) sort)

/-- A literal with a base letter; `s` stands behind the letter. -/
def basedNumber (s start : Scan) (base : Nat) (sort : String) : Token × Scan :=
  match s.rest with
  | c :: _ =>
    if (digitOf? base c).isSome then
      let (ds, isGood, t) := moreDigits base s.limit s.bump [c]
      if !isGood then (.undetermined, t)
      else
        let value := valueOfDigits base ds.reverse
        match t.rest with
        | 'n' :: _ => numberEnd t.bump (.bigint (String.ofList (Nat.toDigits 10 value)))
        | _ =>
          let raw := String.ofList (start.rest.take (t.pos - start.pos))
          numberEnd t (.number (Float.ofScientific value false 0) raw sort)
    else (.undetermined, s.faultHere)
  | [] => (.undetermined, s.faultHere)

/-- A numeric literal; `s` stands at its first digit. -/
def number (s : Scan) : Token × Scan :=
  match s.rest with
  | '0' :: c :: _ =>
    if c = 'x' || c = 'X' then basedNumber (s.drop 2) s 16 "hex"
    else if c = 'b' || c = 'B' then basedNumber (s.drop 2) s 2 "binary"
    else if c = 'o' || c = 'O' then basedNumber (s.drop 2) s 8 "octal"
    else if c = 'n' then numberEnd (s.drop 2) (.bigint "0")
    else if c = '.' then fractionAndExponent (s.drop 2) s ['0'] true
    else if c.isDigit then
      let ds := s.rest.takeWhile Char.isDigit
      let t := s.drop ds.length
      if ds.all (· < '8') then
        numberEnd t (.number (Float.ofScientific (valueOfDigits 8 ds) false 0)
          (String.ofList ds) "octal")
      else
        match t.rest with
        | '.' :: _ => fractionAndExponent t.bump s ds true
        | _ => fractionAndExponent t s ds false
    else fractionAndExponent s.bump s ['0'] false
  | c :: _ =>
    let (ds, _, t) := moreDigits 10 s.limit s.bump [c]
    match t.rest with
    | '.' :: _ => fractionAndExponent t.bump s ds.reverse true
    | 'n' :: _ =>
      numberEnd t.bump (.bigint (String.ofList (Nat.toDigits 10 (valueOfDigits 10 ds.reverse))))
    | _ => fractionAndExponent t s ds.reverse false
  | [] => (.undetermined, s)

/-! ## Marks -/

/-- Marks of more than one character that are read in one piece, longest first. Those that start with
`>` are not among them: only an operator position reads them whole. -/
def longMarks : List String :=
  ["...", "===", "!==", "**=", "&&=", "||=", "??=", "<<=",
   "=>", "==", "!=", "**", "*=", "++", "+=", "--", "-=", "/=", "%=", "&&", "&=", "||", "|=",
   "^=", "??", "<<", "<="]

def singleMarks : List Char :=
  ['\x7b', '\x7d', '(', ')', '[', ']', ';', ',', ':', '.', '@', '~', '?', '<', '>', '=', '!', '+',
   '-', '*', '/', '%', '&', '|', '^']

/-- Marks that start with `>`, longest first. -/
def angleMarks : List String := [">>>=", ">>>", ">>=", ">>", ">="]

def mark (s : Scan) : Token × Scan :=
  match longMarks.find? (fun m => m.toList.isPrefixOf s.rest) with
  | some m => (.mark m, s.drop m.length)
  | none =>
    match s.rest with
    | '?' :: '.' :: rest =>
      if rest.head?.any Char.isDigit then (.mark "?", s.bump) else (.mark "?.", s.drop 2)
    | c :: _ =>
      if singleMarks.contains c then (.mark (String.ofList [c]), s.bump)
      else (.undetermined, s.bump.fault (.invalidCharacter c))
    | [] => (.stop, s)

/-! ## Whole tokens -/

/-- The token at the very place of `s`. -/
def tokenHere (s : Scan) : Token × Scan :=
  match s.rest with
  | [] => (.stop, s)
  | c :: rest =>
    if c = '"' || c = '\'' then string s c
    else if c = '\x60' then template s.bump .templateWhole .templateHead
    else if c = '#' then privateWord s
    else if c.isDigit then number s
    else if c = '.' && rest.head?.any Char.isDigit then fractionAndExponent s.bump s [] true
    else if Text.isIdentifierStart c || c = '\\' then word s
    else mark s

/-- Settles the comments before a token that starts at `start` and ends at `s`. -/
def settle (s : Scan) (token : Token) (start : Nat) (isOnNewLine : Bool) : Lexeme × Scan :=
  let isOpener := match token with
    | .mark m => m == "=" || m == "("
    | _ => false
  let isPure := s.pending.any (·.kind == .pure)
  let owned := s.pending.map ({ · with owner := some start })
  (⟨token, start, s.pos, isOnNewLine, isPure⟩,
    { s with pending := [], settled := owned ++ s.settled, sawNewline := false,
             afterOpener := isOpener })

/-- Reads blanks, comments and one token. -/
def next (s : Scan) : Lexeme × Scan :=
  let (s, line, isOpen) := trivia s.limit s false
  if isOpen then
    let s := s.fault .unterminatedComment
    (⟨.undetermined, s.pos, s.pos, line, false⟩, s)
  else
    let start := s.pos
    let (token, s) := tokenHere s
    settle s token start line

/-- Reads text inside a markup element, up to a tag or an expression. -/
def nextChild (s : Scan) : Lexeme × Scan :=
  let start := s.pos
  match s.rest with
  | [] => settle s .stop start false
  | c :: _ =>
    if c = '<' || c = '\x7b' then settle s.bump (.mark (String.ofList [c])) start false
    else
      let text := s.rest.takeWhile (fun c => c != '<' && c != '\x7b' && c != '>' && c != '\x7d')
      let t := s.drop text.length
      match t.rest with
      | c :: _ =>
        if c = '>' || c = '\x7d' then settle (t.bump.fault (.markupText c)) .undetermined start false
        else settle t (.markupText text) start false
      | [] => settle t (.markupText text) start false

/-- Reads the value of a markup attribute: a string in which nothing is escaped, or a token. -/
def nextAttribute (s : Scan) : Lexeme × Scan :=
  let (s, line, isOpen) := trivia s.limit s false
  match s.rest with
  | c :: _ =>
    if !isOpen && (c = '"' || c = '\'') then
      let start := s.pos
      let body := s.bump
      let text := body.rest.takeWhile (· != c)
      let t := body.drop text.length
      match t.rest with
      | _ :: _ => settle t.bump (.string (text.map Char.toNat) (String.ofList text)) start line
      | [] => settle (t.fault .unterminatedString) .undetermined start line
    else next s
  | [] => next s

/-- Reads the rest of a regular expression's body; the flag says whether a class is open. -/
def regexBody : Nat → Scan → Bool → Option Scan × Scan
  | 0, s, _ => (none, s)
  | n + 1, s, inClass =>
    match s.rest with
    | [] => (none, s)
    | c :: rest =>
      if isLineEnd c then (none, s)
      else if c = '\\' then
        match rest with
        | d :: _ => if isLineEnd d then (none, s) else regexBody n (s.drop 2) inClass
        | [] => (none, s.bump)
      else if c = '/' && !inClass then (some s, s)
      else regexBody n s.bump (if c = '[' then true else if c = ']' then false else inClass)

/-- Checks flags one by one. -/
def checkFlags : List Char → List Char → List Fault
  | _, [] => []
  | seen, c :: rest =>
    if !("dgimsuvy".toList.contains c) then .regexFlag c :: checkFlags seen rest
    else if seen.contains c then .regexFlagTwice c :: checkFlags seen rest
    else checkFlags (c :: seen) rest

/-- Reads a regular expression from its opening slash. -/
def regex (s : Scan) : Token × Scan :=
  let body := s.bump
  match regexBody s.limit body false with
  | (some t, _) =>
    let pattern := body.rest.take (t.pos - body.pos)
    let flags := t.bump.rest.takeWhile (fun c => c.isAlphanum || c = '$' || c = '_')
    let u := t.drop (1 + flags.length)
    let u := { u with faults := (checkFlags [] flags).reverse ++ u.faults }
    (.regex (String.ofList pattern) (String.ofList flags), u)
  | (none, t) => (.regex "" "", t.fault .unterminatedRegex)

/-- The longest mark that starts with `>` here. -/
def angle (s : Scan) : Token × Scan :=
  match angleMarks.find? (fun m => m.toList.isPrefixOf s.rest) with
  | some m => (.mark m, s.drop m.length)
  | none => (.mark ">", s.bump)

end Scan

end Vitrine.Script
