/-!
# Blank characters

The characters with the Unicode property `White_Space`, and the two trims built on them.
-/

namespace Vitrine.Text

/-- The Unicode property `White_Space`. -/
def isBlank (c : Char) : Bool :=
  let n := c.toNat
  (9 ≤ n && n ≤ 13) || n = 0x20 || n = 0x85 || n = 0xA0 || n = 0x1680
    || (0x2000 ≤ n && n ≤ 0x200A) || n = 0x2028 || n = 0x2029 || n = 0x202F || n = 0x205F
    || n = 0x3000

/-- Drops the longest tail of characters that satisfy `p`. -/
def dropTailWhile (p : Char → Bool) (s : List Char) : List Char :=
  (s.reverse.dropWhile p).reverse

/-- Drops blanks at both ends. -/
def trimBlank (s : List Char) : List Char := dropTailWhile isBlank (s.dropWhile isBlank)

/-- Nothing but blanks. -/
def isAllBlank (s : List Char) : Bool := s.all isBlank

end Vitrine.Text
