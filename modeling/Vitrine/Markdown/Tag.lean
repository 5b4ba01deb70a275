import Vitrine.Markdown.Source

/-!
# Tags in documentation

Where a tag of HTML, a comment or another declaration stands in a source. A tag within a line of text may
go on over line ends; what is then to be passed over at the start of the next line is given as a function.
A tag that starts a block ends in its line.
-/

namespace Vitrine.Markdown

/-- What is passed over at the start of a line, for tags that may go on over line ends. -/
abbrev LineSkip := Option (Nat → Nat)

namespace Source

/-! ## Tags -/

/-- Over blanks and line ends; nothing if a line ends and must not. The text does not count as a
line end. Fuel is the length of the text. -/
def tagSpaceFrom? (s : Source) (lines : LineSkip) : Nat → Nat → Option Nat
  | 0, i => some i
  | n + 1, i =>
    let i := s.skipBlanks i
    if i ≥ s.size then none
    else
      match s.lineEnd? i with
      | none => some i
      | some j =>
        match lines with
        | some skip => s.tagSpaceFrom? lines n (skip j)
        | none => none

def tagSpace? (s : Source) (lines : LineSkip) (i : Nat) : Option Nat :=
  s.tagSpaceFrom? lines (s.size + 1) i

/-- The position behind a quoted value, whose text starts at `i`. -/
def quotedValueFrom? (s : Source) (lines : LineSkip) (quote : Char) : Nat → Nat → Option Nat
  | 0, _ => none
  | n + 1, i =>
    match s[i]? with
    | none => none
    | some c =>
      if c = quote then some (i + 1)
      else
        match s.lineEnd? i, lines with
        | none, _ => s.quotedValueFrom? lines quote n (i + 1)
        | some j, some skip => s.quotedValueFrom? lines quote n (skip j)
        | some _, none => none

/-- The characters of a value without quotes. -/
def isBareValueChar (c : Char) : Bool :=
  !(c = '\'' || c = '"' || c = ' ' || c = '=' || c = '>' || c = '<' || c = '\x60' || isLineEnd c)

/-- The position behind the value of an attribute. -/
def attributeValue? (s : Source) (lines : LineSkip) (i : Nat) : Option Nat :=
  match s[i]? with
  | some '"' => s.quotedValueFrom? lines '"' (s.size + 1) (i + 1)
  | some '\'' => s.quotedValueFrom? lines '\'' (s.size + 1) (i + 1)
  | some c => if isBareValueChar c && c != '\t' then some (s.skipWhile isBareValueChar i) else none
  | none => none

def isAttributeStart (c : Char) : Bool := c.isAlpha || c = '_' || c = ':'

def isAttributePart (c : Char) : Bool := c.isAlphanum || c = '_' || c = '.' || c = ':' || c = '-'

/-- The position behind an attribute; the blanks behind its name belong to it if a value follows. -/
def tagAttribute? (s : Source) (lines : LineSkip) (i : Nat) : Option Nat := do
  if !s.holds i isAttributeStart then none
  let behindName := s.skipWhile isAttributePart i
  let sign ← s.tagSpace? lines behindName
  if s.isAt sign '=' then s.attributeValue? lines (← s.tagSpace? lines (sign + 1))
  else some behindName

/-- The position behind the attributes of a tag, at the `/` or `>` that ends it. -/
def tagAttributesFrom? (s : Source) (lines : LineSkip) : Nat → Nat → Option Nat
  | 0, _ => none
  | n + 1, i => do
    let j ← s.tagSpace? lines i
    if s.isAt j '/' || s.isAt j '>' then some j
    else if j = i then none
    else s.tagAttributesFrom? lines n (← s.tagAttribute? lines j)

/-- The position behind the `>` of a tag that starts at the `<` before `i`. -/
def tag? (s : Source) (lines : LineSkip) (i : Nat) : Option Nat := do
  let closing := s.isAt i '/'
  let name := if closing then i + 1 else i
  if !s.holds name Char.isAlpha then none
  let behindName := s.skipWhile (fun c => c.isAlphanum || c == '-') name
  let behind ← if closing then some behindName else s.tagAttributesFrom? lines (s.size + 1) behindName
  let j := s.skipBlanks behind
  let j := if !closing && s.isAt j '/' then j + 1 else j
  if s.isAt j '>' then some (j + 1) else none

/-! ## Comments and declarations -/

/-- The position behind the first `>` that follows two hyphens, the second of them from `i` on. -/
def commentEndFrom? (s : Source) (stop : Nat) : Nat → Nat → Option Nat
  | 0, _ => none
  | n + 1, i => do
    let j ← s.find? (· == '-') i
    if j ≥ stop then none
    else if s.isAt (j + 1) '-' && s.isAt (j + 2) '>' && j + 2 < stop then some (j + 3)
    else s.commentEndFrom? stop n (j + 1)

/-- The position behind the first `?>` from `i` on. -/
def instructionEndFrom? (s : Source) (stop : Nat) : Nat → Nat → Option Nat
  | 0, _ => none
  | n + 1, i => do
    let j ← s.find? (· == '?') i
    if j ≥ stop then none
    else if s.isAt (j + 1) '>' && j + 1 < stop then some (j + 2)
    else s.instructionEndFrom? stop n (j + 1)

/-- The position behind a section of character data, which ends with its first closing brackets. -/
def dataEnd? (s : Source) (stop i : Nat) : Option Nat := do
  let j ← s.find? (· == ']') i
  let behind := s.skipWhile (· == ']') j
  if behind < stop && s.isAt behind '>' then some (behind + 1) else none

/-- The position behind what starts with `<!`, which stands before `i`. -/
def declaration? (s : Source) (stop i : Nat) : Option Nat :=
  match s[i]? with
  | some '-' => if s.isAt (i + 1) '-' then s.commentEndFrom? stop s.size i else none
  | some '[' =>
    if s.startsWith (i + 1) "CDATA[".toList then s.dataEnd? stop (i + 7) else none
  | some c =>
    if c.isAlpha then
      match s.find? (· == '>') (i + 1) with
      | some j => if j < stop then some (j + 1) else none
      | none => none
    else none
  | none => none

/-- The position behind raw HTML within text, at the `<` before `i`. -/
def rawInline? (s : Source) (lines : LineSkip) (stop i : Nat) : Option Nat :=
  match s[i]? with
  | some '!' => s.declaration? stop (i + 1)
  | some '?' => s.instructionEndFrom? stop s.size (i + 1)
  | _ =>
    match s.tag? lines i with
    | some j => if j ≤ stop then some j else none
    | none => none

/-! ## Blocks -/

/-- Names of elements whose text may hold anything. -/
def rawTextNames : List String := ["pre", "style", "script", "textarea"]

/-- What the other blocks that may hold blank lines start and end with. -/
def freeBlocks : List (String × String) := [("!--", "-->"), ("?", "?>"), ("![CDATA[", "]]>")]

/-- The text that ends a block which may hold blank lines, at the `<` before `i`. -/
def freeBlockEnd? (s : Source) (i : Nat) : Option String :=
  let named := rawTextNames.find? fun name =>
    let behind := i + name.length
    s.startsWithAnyCase i name.toList
      && (behind ≥ s.size || s.holds behind fun c => isSpace c || c == '>')
  match named with
  | some name => some ("</" ++ name ++ ">")
  | none =>
    match freeBlocks.find? fun b => s.startsWith i b.1.toList with
    | some b => some b.2
    | none => if s.isAt i '!' && s.holds (i + 1) Char.isAlpha then some ">" else none

/-- Names of elements that start a block. -/
def blockNames : List String :=
  ["address", "article", "aside", "base", "basefont", "blockquote", "body", "caption", "center", "col",
    "colgroup", "dd", "details", "dialog", "dir", "div", "dl", "dt", "fieldset", "figcaption",
    "figure", "footer", "form", "frame", "frameset", "h1", "h2", "h3", "h4", "h5", "h6", "head",
    "header", "hr", "html", "iframe", "legend", "li", "link", "main", "menu", "menuitem", "nav",
    "noframes", "ol", "optgroup", "option", "p", "param", "search", "section", "summary", "table",
    "tbody", "td", "tfoot", "th", "thead", "title", "tr", "track", "ul"]

/-- Whether a tag at the `<` before `i` starts a block by its name. -/
def startsNamedBlock (s : Source) (i : Nat) : Bool :=
  let i := if s.isAt i '/' then i + 1 else i
  let j := s.skipWhile Char.isAlphanum i
  blockNames.contains (s.slice i j).toLower
    && (j ≥ s.size || s.isAt j '>' || (s.isAt j '/' && s.isAt (j + 1) '>')
      || s.holds j fun c => c == ' ' || c == '\t' || isLineEnd c)

/-- Whether a whole tag, and nothing else, stands in the line at the `<` before `i`. -/
def isTagLine (s : Source) (i : Nat) : Bool :=
  match s.tag? none i with
  | some j => s.isBlankLine j
  | none => false

end Source

end Vitrine.Markdown
