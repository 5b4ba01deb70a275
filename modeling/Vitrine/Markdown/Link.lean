import Vitrine.Markdown.Entity

/-!
# Parts of links

The destination, the title and the label of a link, as they stand in a source. In a table, a pipe must be
written behind a backslash everywhere, and the backslash does not count.
-/

namespace Vitrine.Markdown

/-- How deep parentheses may nest in a destination. -/
def maxNesting : Nat := 32

namespace Source

/-- Whether a backslash at `i` makes the next character stand for itself. -/
def isEscape (s : Source) (i : Nat) : Bool :=
  s.isAt i '\\' && s.holds (i + 1) Text.isAsciiPunctuation

/-- Whether two backslashes at `i` stand before a pipe. -/
def isDoubleEscape (s : Source) (i : Nat) : Bool :=
  s.isAt i '\\' && s.isAt (i + 1) '\\' && s.isAt (i + 2) '|'

/-! ## Escapes and references -/

/-- The characters between two positions with their escapes and references resolved, and without
carriage returns. Fuel is the distance. -/
def unescapedFrom (s : Source) (inTable : Bool) (stop : Nat) : Nat → Nat → List Char
  | 0, _ => []
  | n + 1, i =>
    match s[i]? with
    | none => []
    | some c =>
      if i ≥ stop then []
      else if inTable && i + 2 < stop && s.isDoubleEscape i then
        '|' :: s.unescapedFrom inTable stop n (i + 3)
      else if i + 1 < stop && s.isEscape i then
        match s[i + 1]? with
        | some e => e :: s.unescapedFrom inTable stop n (i + 2)
        | none => []
      else if c = '&' then
        match s.reference? i with
        | some (j, t) =>
          if j ≤ stop then t.toList ++ s.unescapedFrom inTable stop n j
          else c :: s.unescapedFrom inTable stop n (i + 1)
        | none => c :: s.unescapedFrom inTable stop n (i + 1)
      else if c = '\r' then s.unescapedFrom inTable stop n (i + 1)
      else c :: s.unescapedFrom inTable stop n (i + 1)

def unescaped (s : Source) (inTable : Bool) (i j : Nat) : String :=
  String.ofList (s.unescapedFrom inTable j (j - i) i)

/-! ## Destinations -/

/-- The position of the `>` behind a destination in angle brackets. -/
def angledEndFrom? (s : Source) : Nat → Nat → Option Nat
  | 0, _ => none
  | n + 1, i =>
    match s[i]? with
    | none => none
    | some '>' => some i
    | some c =>
      if isLineEnd c || c = '<' then none
      else if s.isEscape i then s.angledEndFrom? n (i + 2)
      else s.angledEndFrom? n (i + 1)

/-- The position behind a bare destination, at which `depth` parentheses are open. -/
def bareEndFrom? (s : Source) : Nat → Nat → Nat → Option Nat
  | 0, _, _ => none
  | n + 1, depth, i =>
    let behind := if depth = 0 then some i else none
    match s[i]? with
    | none => behind
    | some c =>
      if c.toNat ≤ 0x20 then behind
      else if c = '(' then
        if depth > maxNesting then none else s.bareEndFrom? n (depth + 1) (i + 1)
      else if c = ')' then
        if depth = 0 then some i else s.bareEndFrom? n (depth - 1) (i + 1)
      else if s.isEscape i then s.bareEndFrom? n depth (i + 2)
      else s.bareEndFrom? n depth (i + 1)

/-- The destination at a position: where it ends, and its text from where to where. -/
def destination? (s : Source) (i : Nat) : Option (Nat × Nat × Nat) :=
  if s.isAt i '<' then
    (s.angledEndFrom? (s.size + 1) (i + 1)).map fun j => (j + 1, i + 1, j)
  else (s.bareEndFrom? (s.size + 1) 0 i).map fun j => (j, i, j)

/-! ## Titles -/

/-- What closes a title that opens with a character. -/
def titleClose? (opening : Char) : Option Char :=
  match opening with
  | '"' => some '"'
  | '\'' => some '\''
  | '(' => some ')'
  | _ => none

/-- The text of the title of a link up to its end, and the position behind it. `lineText` gives where
the text of the next line starts. -/
def titleFrom? (s : Source) (inTable : Bool) (lineText : Nat → Nat) (opening close : Char) :
    Nat → List Char → Nat → Option (Nat × List Char)
  | 0, _, _ => none
  | n + 1, read, i =>
    match s[i]? with
    | none => none
    | some c =>
      if c = close then some (i + 1, read.reverse)
      else if c = opening then none
      else if c = '\n' || (c = '\r' && !s.isAt (i + 1) '\n') then
        s.titleFrom? inTable lineText opening close n ('\n' :: read) (lineText (i + 1))
      else if inTable && s.isDoubleEscape i then
        s.titleFrom? inTable lineText opening close n ('|' :: read) (i + 3)
      else if s.isEscape i then
        match s[i + 1]? with
        | some e => s.titleFrom? inTable lineText opening close n (e :: read) (i + 2)
        | none => none
      else if c = '&' then
        match s.reference? i with
        | some (j, t) =>
          s.titleFrom? inTable lineText opening close n (t.toList.reverse ++ read) j
        | none => s.titleFrom? inTable lineText opening close n (c :: read) (i + 1)
      else s.titleFrom? inTable lineText opening close n (c :: read) (i + 1)

/-- The title of a link at a position: where it ends, and its text. -/
def title? (s : Source) (inTable : Bool) (lineText : Nat → Nat) (i : Nat) :
    Option (Nat × String) := do
  let opening ← s[i]?
  let close ← titleClose? opening
  let (j, cs) ← s.titleFrom? inTable lineText opening close (s.size + 1) [] (i + 1)
  some (j, String.ofList cs)

/-! ## Labels -/

/-- How long a label may be, in characters that are not plain. -/
def maxLabel : Nat := 1000

/-- What a label is made of: its characters so far, the last one first, whether there was anything but
blanks, and its length as far as it is limited. -/
structure LabelState where
  read : List Char := []
  hasText : Bool := false
  length : Nat := 0

/-- Blanks from a position on: where they end, and how many line ends there are. `lineBody` gives where
the next line goes on, or nothing if it does not belong to the label. -/
def labelSpaceFrom? (s : Source) (lineBody : Nat → Option Nat) :
    Nat → Nat → Nat → Option (Nat × Nat)
  | 0, i, ends => some (i, ends)
  | n + 1, i, ends =>
    if !s.holds i isSpace then some (i, ends)
    else
      match s.lineEnd? i with
      | some j =>
        if ends > 0 then none
        else
          match lineBody j with
          | some k => s.labelSpaceFrom? lineBody n k (ends + 1)
          | none => none
      | none => s.labelSpaceFrom? lineBody n (i + 1) ends

/-- A label from behind its opening bracket on, with the position behind its closing bracket. Blanks
are drawn together. -/
def labelFrom? (s : Source) (inTable : Bool) (lineBody : Nat → Option Nat) :
    Nat → LabelState → Nat → Option (Nat × List Char)
  | 0, _, _ => none
  | n + 1, st, i =>
    if st.length ≥ maxLabel then none
    else
      match s[i]? with
      | none => none
      | some '[' => none
      | some ']' => if st.hasText then some (i + 1, st.read.reverse) else none
      | some '\\' =>
        if inTable && s.isAt (i + 1) '|' then
          s.labelFrom? inTable lineBody n
            { st with read := '|' :: st.read, length := st.length + 1 } (i + 2)
        else if inTable && s.isDoubleEscape i then
          s.labelFrom? inTable lineBody n
            { st with read := '|' :: '\\' :: st.read, length := st.length + 1 } (i + 3)
        else
          match s[i + 1]? with
          | none => none
          | some e =>
            s.labelFrom? inTable lineBody n
              { read := e :: '\\' :: st.read, hasText := st.hasText || 0x80 ≤ e.toNat
                length := st.length + 2 } (i + 2)
      | some c =>
        if isSpace c then
          match s.labelSpaceFrom? lineBody (s.size + 1) i 0 with
          | none => none
          | some (j, _) =>
            s.labelFrom? inTable lineBody n
              { st with read := ' ' :: st.read, length := st.length + (j - i) } j
        else
          s.labelFrom? inTable lineBody n
            { read := c :: st.read, hasText := true
              length := st.length + (if c.toNat < 0x80 then 0 else c.utf8Size) } (i + 1)

/-- The label behind the opening bracket at `i`: the position behind its closing bracket, and its
text. -/
def label? (s : Source) (inTable : Bool) (lineBody : Nat → Option Nat) (i : Nat) :
    Option (Nat × String) :=
  if s.isAt i '[' then
    (s.labelFrom? inTable lineBody (s.size + 1) {} (i + 1)).map fun (j, cs) => (j, String.ofList cs)
  else none

end Source

end Vitrine.Markdown
