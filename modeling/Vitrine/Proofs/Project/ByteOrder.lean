import Mathlib.Data.List.Basic
import Mathlib.Data.List.Lex
import Mathlib.Data.String.Basic
import Vitrine.Project.Fingerprint

/-!
# Paths are in the order of their bytes (section 3)

A snapshot keeps its files in the order of the code points of their paths. That is the order of the bytes
that the paths have in UTF-8: a greater character has a greater encoding, and it is greater at the first
byte that differs, so that it does not matter what comes behind.

A `ProjectSnapshot` is an ordered map, and keys of text are ordered by their bytes.

`utf8_lt_iff`: one text comes before another exactly if its bytes come before those of the other.
-/

namespace Vitrine.Snapshot

/-! ## Bytes of a text -/

/-- What the conversion of bytes to a list has found, and what it still finds. -/
theorem toListLoop_eq (bytes : ByteArray) (i : Nat) (found : List UInt8) :
    ByteArray.toList.loop bytes i found = found.reverse ++ bytes.data.toList.drop i := by
  have hlength : bytes.data.toList.length = bytes.size := by
    rw [Array.length_toList, ByteArray.size_data]
  fun_induction ByteArray.toList.loop bytes i found with
  | case1 i found hi ih =>
    have hlt : i < bytes.data.toList.length := hlength ▸ hi
    have hget : bytes.get! i = bytes.data.toList[i] := by
      rw [Array.getElem_toList]
      exact getElem!_pos bytes.data i hi
    rw [ih, List.drop_eq_getElem_cons hlt, hget, List.reverse_cons, List.append_assoc,
      List.singleton_append]
  | case2 i found hi =>
    rw [List.drop_eq_nil_of_le (hlength ▸ Nat.le_of_not_lt hi), List.append_nil]

/-- The bytes of a text are those of its characters, one after the other. -/
theorem utf8_eq (s : String) : utf8 s = s.toList.flatMap String.utf8EncodeChar := by
  rw [utf8, String.toUTF8_eq_toByteArray, ByteArray.toList, toListLoop_eq, List.reverse_nil,
    List.nil_append, List.drop_zero, ← String.utf8Encode_toList, List.utf8Encode,
    List.toList_data_toByteArray]

/-! ## The order of bytes -/

theorem toNat_char_lt (c : Char) : c.toNat < 0x110000 := by
  rcases c.valid with h | ⟨_, h⟩
  · exact Nat.lt_trans h (by decide)
  · exact h

/-- A greater character has greater bytes, whatever stands behind. -/
theorem utf8EncodeChar_append_lt {c d : Char} (h : c < d) (xs ys : List UInt8) :
    String.utf8EncodeChar c ++ xs < String.utf8EncodeChar d ++ ys := by
  have hlt : c.toNat < d.toNat := h
  have hc := toNat_char_lt c
  have hd := toNat_char_lt d
  unfold String.utf8EncodeChar
  simp only [Char.toNat_val]
  -- Encodings of different lengths differ at the first byte; of the same length, they are the digits of
  -- the code points to the base 64.
  split_ifs <;>
    simp (disch := omega) only [List.cons_append, List.nil_append, List.cons_lt_cons_iff,
      UInt8.lt_iff_toNat_lt, ← UInt8.toNat_inj, UInt8.toNat_ofNat', Nat.reducePow,
      Nat.mod_eq_of_lt] <;>
    omega

theorem flatMap_utf8EncodeChar_lt {cs ds : List Char} (h : cs < ds) :
    cs.flatMap String.utf8EncodeChar < ds.flatMap String.utf8EncodeChar := by
  induction h with
  | @nil d ds =>
    rw [List.flatMap_nil, List.flatMap_cons]
    obtain ⟨b, bs, hb⟩ := List.exists_cons_of_ne_nil (String.utf8EncodeChar_ne_nil (c := d))
    rw [hb]
    exact List.Lex.nil
  | @cons c cs ds _ ih => exact List.append_left_lt ih
  | @rel c d cs ds hcd => exact utf8EncodeChar_append_lt hcd _ _

/-- **The order of texts is the order of their bytes.** -/
theorem utf8_lt_iff {a b : String} : utf8 a < utf8 b ↔ a < b := by
  have mono : ∀ {a b : String}, a < b → utf8 a < utf8 b := fun h => by
    rw [utf8_eq, utf8_eq]
    exact flatMap_utf8EncodeChar_lt h
  constructor
  · intro h
    rcases lt_trichotomy a b with hab | rfl | hba
    · exact hab
    · exact absurd h (List.lt_irrefl _)
    · exact absurd h (List.lt_asymm (mono hba))
  · exact mono

end Vitrine.Snapshot
