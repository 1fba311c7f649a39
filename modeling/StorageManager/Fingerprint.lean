import StorageManager.Lib.Sha256

/-!
# Fingerprints of serialized records

Every module of the program has its own private `fingerprint`, always the
lower-case hexadecimal SHA-256 of the compact serde_json bytes. Here the hash is a
parameter of which only the shape of its text is used; `serdeSha256` is the hash
the program computes.
-/

namespace StorageManager

open Lib.Json (Value)

set_option autoImplicit false

def isSha256Hex (value : String) : Bool :=
  value.utf8ByteSize == 64 && value.toList.all Lib.Sha256.isLowerHexDigit

/-- A digest is written as it is, with its quotes. -/
theorem isSha256Hex_rendered {value : String} (h : isSha256Hex value = true) :
    String.utf8Len (Lib.Json.renderString value) = 66 := by
  obtain ⟨hsize, hdigits⟩ := Bool.and_eq_true_iff.mp h
  rw [Lib.Json.renderString_len_plain, beq_iff_eq.mp hsize]
  intro c hc
  have hdigit := List.all_eq_true.mp hdigits c hc
  -- the digits and the letters from a to f are no controls, quotes or backslashes
  have hrange : (48 ≤ c.toNat ∧ c.toNat ≤ 57) ∨ (97 ≤ c.toNat ∧ c.toNat ≤ 102) := by
    simp only [Lib.Sha256.isLowerHexDigit, Char.isDigit, Bool.or_eq_true, Bool.and_eq_true,
      decide_eq_true_eq] at hdigit
    exact hdigit
  have hne : ∀ d : Char, d.toNat < 48 ∨ d.toNat = 92 → c ≠ d := by
    rintro d hd rfl
    omega
  unfold Lib.Json.escapeChar
  rw [if_neg (hne '"' (.inl (by decide))), if_neg (hne '\\' (.inr rfl)),
    if_neg (by omega), if_neg (by omega), if_neg (hne '\n' (.inl (by decide))),
    if_neg (hne '\r' (.inl (by decide))), if_neg (hne '\t' (.inl (by decide))),
    if_neg (by omega)]

class Fingerprint where
  fingerprint : Value → String
  isSha256Hex_fingerprint : ∀ v, isSha256Hex (fingerprint v) = true

export Fingerprint (fingerprint)

attribute [simp] Fingerprint.isSha256Hex_fingerprint

@[simp] theorem fingerprint_utf8ByteSize [Fingerprint] (v : Value) :
    (fingerprint v).utf8ByteSize = 64 :=
  beq_iff_eq.mp (Bool.and_eq_true_iff.mp (Fingerprint.isSha256Hex_fingerprint v)).1

/-- Two values of one fingerprint. -/
def Collision [Fingerprint] (v w : Value) : Prop := v ≠ w ∧ fingerprint v = fingerprint w

/-- The fingerprint of the program: SHA-256 over the serde_json bytes. -/
instance serdeSha256 : Fingerprint where
  fingerprint v := Lib.Sha256.sha256Hex (Lib.Json.toBytes v)
  isSha256Hex_fingerprint v := by
    simp [isSha256Hex, Lib.Sha256.sha256Hex_utf8ByteSize, Lib.Sha256.sha256Hex_all]

/-- `str::starts_with`. -/
def startsWith (value start : String) : Bool := start.toList.isPrefixOf value.toList

/-- `char::is_control`. -/
def isControl (c : Char) : Bool := c.toNat < 0x20 || (0x7f ≤ c.toNat && c.toNat ≤ 0x9f)

end StorageManager
