import Vitrine.Digest.Sha256
import Vitrine.Project.Snapshot

/-!
# Fingerprints (section 4.8)

The fingerprint of a project is the digest of its files in order, each path and each content with its
length in front. The key of a selection is the digest of the fingerprint, a zero byte and the selected
path. What is digested is defined apart from the digest.

The fingerprint is `content_hash`, and the key is `frame_key`.
-/

namespace Vitrine.Snapshot

/-- The bytes of a text in UTF-8. -/
def utf8 (s : String) : List UInt8 := s.toUTF8.toList

/-- Eight bytes, the least significant first. -/
def littleEndian (n : Nat) : List UInt8 := (Digest.bigEndian 8 n).reverse

/-- A text with its length in front. -/
def measured (s : String) : List UInt8 :=
  let bytes := utf8 s
  littleEndian bytes.length ++ bytes

/-- What is digested for the fingerprint. -/
def fingerprintBytes (s : Snapshot) : List UInt8 :=
  s.files.flatMap fun f => measured f.1 ++ measured f.2

/-- The fingerprint of all files. -/
def fingerprint (s : Snapshot) : String := Digest.hexDigest s.fingerprintBytes

/-- What is digested for the key of a selection. -/
def selectionBytes (s : Snapshot) (selected : String) : List UInt8 :=
  utf8 s.fingerprint ++ 0 :: utf8 selected

/-- What changes whenever a file or the selection changes. -/
def selectionKey (s : Snapshot) (selected : String) : String :=
  Digest.hexDigest (s.selectionBytes selected)

end Vitrine.Snapshot
