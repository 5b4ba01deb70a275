import Mathlib.Algebra.Group.Nat.Defs
import Vitrine.Digest.Sha256
import Vitrine.Proofs.Project.ByteOrder

/-!
# What a key tells (section 4.8)

The key of a selection is a digest twice over: of the project's files, and of that digest with the selection
behind it. Each text of a project stands behind its own length, so what is digested tells where one text ends
and the next begins, whatever bytes they are made of; there is no need to write how many there are.

The key is that of `frame_key`, a digest over `content_hash` and the selection.

* `hexDigest_inj`: a digest is eight words of eight digits each, and its text tells all of them.
* `fingerprintBytes_inj`: what is digested for the fingerprint tells all files.
* `selectionBytes_inj`: what is digested for the key tells the fingerprint and the selection.
* `selectionKey_identifies`: so equal keys come from equal projects and selections, unless the digest
  confuses the two messages that were digested for the fingerprints, or the two for the keys.
-/

namespace Vitrine.Digest

/-! ## Bytes -/

/-- A number is written in as many bytes as are asked for. -/
theorem length_bigEndian (n x : Nat) : (bigEndian n x).length = n := by
  induction n with
  | zero => rfl
  | succ n ih => rw [bigEndian, List.length_cons, ih]

theorem bigEndian_inj {n x y : Nat} (h : bigEndian n x = bigEndian n y) : x % 256 ^ n = y % 256 ^ n := by
  induction n with
  | zero => rw [Nat.pow_zero, Nat.mod_one, Nat.mod_one]
  | succ n ih =>
    obtain ⟨hbyte, hrest⟩ := List.cons.inj h
    have hdigit : x / 256 ^ n % 256 = y / 256 ^ n % 256 := by
      simpa [UInt8.toNat_ofNat'] using congrArg UInt8.toNat hbyte
    rw [Nat.mod_pow_succ, Nat.mod_pow_succ, hdigit, ih hrest]

/-! ## Hexadecimal digits -/

/-- A number is written in as many digits as are asked for. -/
theorem length_hexDigits (n x : Nat) : (hexDigits n x).length = n := by
  induction n with
  | zero => rfl
  | succ n ih => rw [hexDigits, List.length_cons, ih]

/-- Different digits have different characters. -/
theorem digitChar_inj : ∀ d < 16, ∀ e < 16,
    (if d < 10 then Char.ofNat (48 + d) else Char.ofNat (87 + d)) =
      (if e < 10 then Char.ofNat (48 + e) else Char.ofNat (87 + e)) → d = e := by
  decide

theorem hexDigits_inj {n x y : Nat} (h : hexDigits n x = hexDigits n y) : x % 16 ^ n = y % 16 ^ n := by
  induction n with
  | zero => rw [Nat.pow_zero, Nat.mod_one, Nat.mod_one]
  | succ n ih =>
    obtain ⟨hchar, hrest⟩ := List.cons.inj h
    have hdigit : x / 16 ^ n % 16 = y / 16 ^ n % 16 :=
      digitChar_inj _ (Nat.mod_lt _ (by decide)) _ (Nat.mod_lt _ (by decide)) hchar
    rw [Nat.mod_pow_succ, Nat.mod_pow_succ, hdigit, ih hrest]

/-- The digits of a word tell the word. -/
theorem hexDigits_word_inj {v w : UInt32} (h : hexDigits 8 v.toNat = hexDigits 8 w.toNat) : v = w := by
  have hfits (u : UInt32) : u.toNat < 16 ^ 8 := u.toNat_lt
  have hmod := hexDigits_inj h
  rwa [Nat.mod_eq_of_lt (hfits v), Nat.mod_eq_of_lt (hfits w), UInt32.toNat_inj] at hmod

/-! ## Digests -/

/-- The digits of as many words tell all of them. -/
theorem hexWords_inj {vs ws : List UInt32} (hlength : vs.length = ws.length)
    (h : vs.flatMap (fun w => hexDigits 8 w.toNat) = ws.flatMap fun w => hexDigits 8 w.toNat) : vs = ws := by
  induction vs generalizing ws with
  | nil => exact (List.length_eq_zero_iff.mp hlength.symm).symm
  | cons v vs ih =>
    obtain ⟨w, ws, rfl⟩ := List.exists_cons_of_length_eq_add_one hlength.symm
    rw [List.flatMap_cons, List.flatMap_cons] at h
    obtain ⟨hword, hrest⟩ := List.append_inj h (by rw [length_hexDigits, length_hexDigits])
    rw [hexDigits_word_inj hword, ih (Nat.succ.inj hlength) hrest]

theorem State.eq_of_words {s t : State}
    (h : [s.a, s.b, s.c, s.d, s.e, s.f, s.g, s.h] = [t.a, t.b, t.c, t.d, t.e, t.f, t.g, t.h]) : s = t := by
  cases s
  cases t
  simpa using h

/-- **The text of a digest tells the digest.** -/
theorem hexDigest_inj {a b : List UInt8} : hexDigest a = hexDigest b ↔ sha256 a = sha256 b := by
  constructor
  · intro h
    simp only [hexDigest] at h
    exact State.eq_of_words (hexWords_inj rfl (String.ofList_injective h))
  · intro h
    rw [hexDigest, hexDigest, h]

end Vitrine.Digest

namespace Vitrine

open Digest

/-- The digest does not confuse two messages: they are equal, or their digests differ. -/
def Digest.Separates (a b : List UInt8) : Prop := sha256 a = sha256 b → a = b

theorem Digest.Separates.hexDigest_inj {a b : List UInt8} (h : Separates a b) :
    hexDigest a = hexDigest b ↔ a = b :=
  Digest.hexDigest_inj.trans ⟨h, fun he => he ▸ rfl⟩

theorem Digest.separates_of_ne {a b : List UInt8} (h : hexDigest a ≠ hexDigest b) : Separates a b :=
  fun heq => absurd (Digest.hexDigest_inj.mpr heq) h

namespace Snapshot

/-! ## Texts with their lengths -/

theorem utf8_inj {a b : String} : utf8 a = utf8 b ↔ a = b := by
  constructor
  · intro h
    rcases lt_trichotomy a b with hlt | heq | hgt
    · exact absurd (utf8_lt_iff.mpr hlt) (h ▸ List.lt_irrefl _)
    · exact heq
    · exact absurd (utf8_lt_iff.mpr hgt) (h ▸ List.lt_irrefl _)
  · exact fun h => h ▸ rfl

theorem length_littleEndian (n : Nat) : (littleEndian n).length = 8 := by
  rw [littleEndian, List.length_reverse, length_bigEndian]

theorem littleEndian_inj {m n : Nat} (hm : m < 2 ^ 64) (hn : n < 2 ^ 64)
    (h : littleEndian m = littleEndian n) : m = n := by
  have hmod := bigEndian_inj (List.reverse_injective h)
  rwa [Nat.mod_eq_of_lt (by omega), Nat.mod_eq_of_lt (by omega)] at hmod

/-- The length of a text can be written in eight bytes. -/
def IsMeasurable (text : String) : Prop := (utf8 text).length < 2 ^ 64

/-- Each text brings its length with it, so none is left out. -/
theorem measured_ne_nil (text : String) : measured text ≠ [] := by
  intro h
  have hlength := congrArg List.length h
  rw [measured, List.length_append, length_littleEndian, List.length_nil] at hlength
  omega

/-- **A text with its length in front tells where it ends**, whatever stands behind. -/
theorem measured_append_inj {a b : String} (ha : IsMeasurable a) (hb : IsMeasurable b) {xs ys : List UInt8}
    (h : measured a ++ xs = measured b ++ ys) : a = b ∧ xs = ys := by
  simp only [measured, List.append_assoc] at h
  obtain ⟨hfront, hrest⟩ := List.append_inj h (by rw [length_littleEndian, length_littleEndian])
  obtain ⟨htext, hbehind⟩ := List.append_inj hrest (littleEndian_inj ha hb hfront)
  exact ⟨utf8_inj.mp htext, hbehind⟩

/-! ## Files -/

/-- The lengths of all paths and contents can be written in eight bytes. -/
def AllMeasurable (files : FileList) : Prop := ∀ f ∈ files, IsMeasurable f.1 ∧ IsMeasurable f.2

/-- The texts of all files, one behind the other, tell the files. -/
theorem flatMap_measured_inj {files files' : FileList} (hfiles : AllMeasurable files)
    (hfiles' : AllMeasurable files')
    (h : files.flatMap (fun f => measured f.1 ++ measured f.2) =
      files'.flatMap fun f => measured f.1 ++ measured f.2) : files = files' := by
  induction files generalizing files' with
  | nil =>
    cases files' with
    | nil => rfl
    | cons g files' =>
      rw [List.flatMap_cons, List.append_assoc] at h
      exact absurd (List.append_eq_nil_iff.mp h.symm).1 (measured_ne_nil g.1)
  | cons f files ih =>
    cases files' with
    | nil =>
      rw [List.flatMap_cons, List.append_assoc] at h
      exact absurd (List.append_eq_nil_iff.mp h).1 (measured_ne_nil f.1)
    | cons g files' =>
      obtain ⟨hf, hfiles⟩ := List.forall_mem_cons.mp hfiles
      obtain ⟨hg, hfiles'⟩ := List.forall_mem_cons.mp hfiles'
      simp only [List.flatMap_cons, List.append_assoc] at h
      obtain ⟨hpath, hbehind⟩ := measured_append_inj hf.1 hg.1 h
      obtain ⟨hcontent, hrest⟩ := measured_append_inj hf.2 hg.2 hbehind
      rw [Prod.ext hpath hcontent, ih hfiles hfiles' hrest]

variable {s t : Snapshot} {p q : String}

/-- **What is digested for a fingerprint tells all files.** -/
theorem fingerprintBytes_inj (hs : AllMeasurable s.files) (ht : AllMeasurable t.files) :
    s.fingerprintBytes = t.fingerprintBytes ↔ s = t := by
  constructor
  · intro h
    have hfiles := flatMap_measured_inj hs ht h
    cases s
    cases t
    obtain rfl := hfiles
    rfl
  · exact fun h => h ▸ rfl

/-! ## Selections -/

/-- A digit takes one byte. -/
theorem length_utf8_hexDigits (n x : Nat) : ((hexDigits n x).flatMap String.utf8EncodeChar).length = n := by
  have hdigit : ∀ d < 16,
      (String.utf8EncodeChar (if d < 10 then Char.ofNat (48 + d) else Char.ofNat (87 + d))).length = 1 := by
    decide
  induction n with
  | zero => rfl
  | succ n ih =>
    rw [hexDigits, List.flatMap_cons, List.length_append, ih, hdigit _ (Nat.mod_lt _ (by decide)),
      Nat.add_comm]

/-- A fingerprint has sixty-four characters, so what stands behind it in a key can be told. -/
theorem length_utf8_fingerprint (s : Snapshot) : (utf8 s.fingerprint).length = 64 := by
  rw [utf8_eq, fingerprint, hexDigest, String.toList_ofList, List.flatMap_assoc]
  simp only [List.flatMap_cons, List.flatMap_nil, List.length_append, List.length_nil,
    length_utf8_hexDigits]

/-- **What is digested for a key tells the fingerprint and the selection.** -/
theorem selectionBytes_inj :
    s.selectionBytes p = t.selectionBytes q ↔ s.fingerprint = t.fingerprint ∧ p = q := by
  constructor
  · intro h
    obtain ⟨hfingerprint, hbehind⟩ :=
      List.append_inj h (by rw [length_utf8_fingerprint, length_utf8_fingerprint])
    exact ⟨utf8_inj.mp hfingerprint, utf8_inj.mp (List.cons.inj hbehind).2⟩
  · rintro ⟨hfingerprint, rfl⟩
    rw [selectionBytes, selectionBytes, hfingerprint]

/-- **A key identifies the project and the selection.** What is digested tells the files, and the fingerprint
and the selection; so if the digest confuses neither the two messages of the fingerprints nor the two of the
keys, equal keys come from equal projects and selections. -/
theorem selectionKey_identifies (hs : AllMeasurable s.files) (ht : AllMeasurable t.files) :
    (s.fingerprintBytes = t.fingerprintBytes ↔ s = t) ∧
    (s.selectionBytes p = t.selectionBytes q ↔
      sha256 s.fingerprintBytes = sha256 t.fingerprintBytes ∧ p = q) ∧
    (Separates s.fingerprintBytes t.fingerprintBytes →
      Separates (s.selectionBytes p) (t.selectionBytes q) →
      (s.selectionKey p = t.selectionKey q ↔ s = t ∧ p = q)) := by
  refine ⟨fingerprintBytes_inj hs ht, ?_, fun hfiles hselection => ?_⟩
  · rw [selectionBytes_inj, fingerprint, fingerprint, hexDigest_inj]
  · calc s.selectionKey p = t.selectionKey q
        ↔ s.selectionBytes p = t.selectionBytes q := hselection.hexDigest_inj
      _ ↔ s.fingerprint = t.fingerprint ∧ p = q := selectionBytes_inj
      _ ↔ s.fingerprintBytes = t.fingerprintBytes ∧ p = q := and_congr_left' hfiles.hexDigest_inj
      _ ↔ s = t ∧ p = q := and_congr_left' (fingerprintBytes_inj hs ht)

/-- Two projects that differ only in where their path ends. -/
theorem selectionKey_identifies_shifted :
    let s : Snapshot := .ofList [("a", "bc")]
    let t : Snapshot := .ofList [("ab", "c")]
    AllMeasurable s.files ∧ AllMeasurable t.files ∧
      Separates s.fingerprintBytes t.fingerprintBytes ∧
      Separates (s.selectionBytes "a") (t.selectionBytes "a") ∧
      s.selectionKey "a" ≠ t.selectionKey "a" := by
  intro s t
  have hs : AllMeasurable s.files := by
    unfold AllMeasurable IsMeasurable
    decide +kernel
  have ht : AllMeasurable t.files := by
    unfold AllMeasurable IsMeasurable
    decide +kernel
  have hsprint : s.fingerprint = "9a8acca1b6c6c0befd3fbc756aed625da998c998f7252e738c4ef061906b9b21" := by
    decide +kernel
  have htprint : t.fingerprint = "43ee655579de01ca739b3f95c1c2d3f46d353b2c0df818064ea594506cdb2617" := by
    decide +kernel
  have hfiles : Separates s.fingerprintBytes t.fingerprintBytes := by
    refine separates_of_ne (show s.fingerprint ≠ t.fingerprint from ?_)
    rw [hsprint, htprint]
    decide
  have hselection : Separates (s.selectionBytes "a") (t.selectionBytes "a") := by
    refine separates_of_ne ?_
    unfold selectionBytes
    rw [hsprint, htprint]
    decide +kernel
  obtain ⟨-, -, hiff⟩ := selectionKey_identifies (p := "a") (q := "a") hs ht
  refine ⟨hs, ht, hfiles, hselection, fun hkey => ?_⟩
  have heq : s = t := ((hiff hfiles hselection).mp hkey).1
  have hpaths : s.paths ≠ t.paths := by decide +kernel
  exact hpaths (heq ▸ rfl)

end Snapshot

end Vitrine
