import Mathlib.Data.Nat.Notation

/-!
# Texts of partition tables

Partition types as the tools print them: a hexadecimal byte in a DOS table, a GUID in a
GPT, both compared without regard to case.
-/

namespace StorageManager.Core

set_option autoImplicit false

/-- The characters with the Unicode property `White_Space`. -/
def isWhitespace (c : Char) : Bool :=
  (0x09 ≤ c.toNat && c.toNat ≤ 0x0d) || (0x2000 ≤ c.toNat && c.toNat ≤ 0x200a) ||
    [0x20, 0x85, 0xa0, 0x1680, 0x2028, 0x2029, 0x202f, 0x205f, 0x3000].contains c.toNat

/-- `str::trim`. -/
def trim (cs : List Char) : List Char :=
  ((cs.dropWhile isWhitespace).reverse.dropWhile isWhitespace).reverse

/-- `char::to_digit(16)`. -/
def hexDigit (c : Char) : Option Nat :=
  if '0' ≤ c ∧ c ≤ '9' then some (c.toNat - '0'.toNat)
  else if 'a' ≤ c ∧ c ≤ 'f' then some (c.toNat - 'a'.toNat + 10)
  else if 'A' ≤ c ∧ c ≤ 'F' then some (c.toNat - 'A'.toNat + 10)
  else none

/-- The value of hexadecimal digits that fit in a byte. -/
def hexByte (value : Nat) : List Char → Option Nat
  | [] => some value
  | c :: cs => do
    let digit ← hexDigit c
    if value * 16 + digit < 256 then hexByte (value * 16 + digit) cs else none

/-- `u8::from_str_radix(_, 16)`, which takes a leading plus sign. -/
def u8FromHex : List Char → Option Nat
  | [] => none
  | ['+'] => none
  | '+' :: cs => hexByte 0 cs
  | cs => hexByte 0 cs

def parseDosType (raw : String) : Option Nat :=
  u8FromHex (match trim raw.toList with
    | '0' :: 'x' :: cs => cs
    | '0' :: 'X' :: cs => cs
    | cs => cs)

/-- `str::to_ascii_lowercase`. -/
def asciiLower (s : String) : List Char := s.toList.map Char.toLower

/-- `str::eq_ignore_ascii_case`. -/
def eqIgnoreAsciiCase (a b : String) : Bool := asciiLower a = asciiLower b

/-- The type of a container of logical partitions. -/
def isExtendedType (kind : Nat) : Bool := kind = 0x05 || kind = 0x0f || kind = 0x85

end StorageManager.Core
