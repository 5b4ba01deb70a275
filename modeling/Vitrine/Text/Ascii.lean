/-!
# ASCII letters, digits and case

Path extensions, attribute names and style ids look at ASCII alone: a letter outside ASCII has no
case here and is no letter. Comparisons that ignore case therefore never identify `K` with the
Kelvin sign.
-/

namespace Vitrine.Text

/-- An ASCII letter or digit. -/
def isAsciiAlphanumeric (c : Char) : Bool := c.isAlphanum

/-- The characters of `s` with ASCII upper-case letters lowered. -/
def lowerAscii (s : List Char) : List Char := s.map Char.toLower

/-- `s` with ASCII upper-case letters lowered. -/
def lowered (s : String) : String := String.ofList (lowerAscii s.toList)

/-- Equality up to the case of ASCII letters. -/
def equalIgnoringCase (a b : String) : Bool := lowerAscii a.toList == lowerAscii b.toList

theorem isAlpha_eq_false_iff {c : Char} :
    c.isAlpha = false ↔
      ¬ ('A'.val ≤ c.val ∧ c.val ≤ 'Z'.val) ∧ ¬ ('a'.val ≤ c.val ∧ c.val ≤ 'z'.val) := by
  show (decide (c.val ≥ 'A'.val ∧ c.val ≤ 'Z'.val) || (decide (c.val ≥ 'a'.val) && decide (c.val ≤ 'z'.val))) =
    false ↔ _
  rw [Bool.or_eq_false_iff, ← Bool.decide_and, decide_eq_false_iff_not, decide_eq_false_iff_not]

/-- What is no letter is neither changed nor made of anything else. -/
theorem toLower_eq_iff {c d : Char} (hd : d.isAlpha = false) : c.toLower = d ↔ c = d := by
  obtain ⟨hupper, hlower⟩ := isAlpha_eq_false_iff.mp hd
  unfold Char.toLower
  split
  · rename_i h
    -- An upper-case letter and what it is lowered to are both letters, so neither is `d`.
    refine iff_of_false ?_ fun hcd => hupper (hcd ▸ h)
    rintro rfl
    simp [UInt32.le_iff_toNat_le, UInt32.toNat_add] at h hlower
    omega
  · exact Iff.rfl

/-! ## Lowered texts -/

theorem reverse_lowerAscii (s : List Char) : (lowerAscii s).reverse = lowerAscii s.reverse := by
  rw [lowerAscii, lowerAscii, List.map_reverse]

theorem toList_lowered (s : String) : (lowered s).toList = lowerAscii s.toList := String.toList_ofList

section Cutting

variable {d : Char}

theorem bne_comp_toLower (hd : d.isAlpha = false) : (· != d) ∘ Char.toLower = (· != d) := by
  funext c
  rw [Function.comp_apply, Bool.eq_iff_iff, bne_iff_ne, bne_iff_ne, ne_eq, toLower_eq_iff hd]

/-- A text may be lowered before or after it is cut at a character that is no letter. -/
theorem takeWhile_lowerAscii (hd : d.isAlpha = false) (s : List Char) :
    (lowerAscii s).takeWhile (· != d) = lowerAscii (s.takeWhile (· != d)) := by
  rw [lowerAscii, List.takeWhile_map, bne_comp_toLower hd, lowerAscii]

theorem dropWhile_lowerAscii (hd : d.isAlpha = false) (s : List Char) :
    (lowerAscii s).dropWhile (· != d) = lowerAscii (s.dropWhile (· != d)) := by
  rw [lowerAscii, List.dropWhile_map, bne_comp_toLower hd, lowerAscii]

end Cutting

/-! ## Equality up to case -/

theorem equalIgnoringCase_iff {a b : String} : equalIgnoringCase a b = true ↔ lowered a = lowered b := by
  rw [equalIgnoringCase, beq_iff_eq, lowered, lowered, String.ofList_inj]

theorem equalIgnoringCase_comm (a b : String) : equalIgnoringCase a b = equalIgnoringCase b a := by
  simp only [equalIgnoringCase, Bool.beq_comm]

end Vitrine.Text
