import Mathlib.Data.String.Basic
import StorageManager.Lib.Json

/-!
# SHA-256 and its lower-case hexadecimal text

The hash of FIPS 180-4 on byte lists. What the proofs use of it is the shape of
the digest text: 64 lower-case hexadecimal digits for every input.
-/

namespace StorageManager.Lib.Sha256

open StorageManager.Lib.Json (lowerHexDigit)

set_option autoImplicit false

/-- The eight words of the chaining value and of a round. -/
structure Working where
  a : UInt32
  b : UInt32
  c : UInt32
  d : UInt32
  e : UInt32
  f : UInt32
  g : UInt32
  h : UInt32

def initial : Working :=
  ⟨0x6a09e667, 0xbb67ae85, 0x3c6ef372, 0xa54ff53a, 0x510e527f, 0x9b05688c, 0x1f83d9ab, 0x5be0cd19⟩

def roundConstants : List UInt32 :=
  [0x428a2f98, 0x71374491, 0xb5c0fbcf, 0xe9b5dba5, 0x3956c25b, 0x59f111f1, 0x923f82a4, 0xab1c5ed5,
   0xd807aa98, 0x12835b01, 0x243185be, 0x550c7dc3, 0x72be5d74, 0x80deb1fe, 0x9bdc06a7, 0xc19bf174,
   0xe49b69c1, 0xefbe4786, 0x0fc19dc6, 0x240ca1cc, 0x2de92c6f, 0x4a7484aa, 0x5cb0a9dc, 0x76f988da,
   0x983e5152, 0xa831c66d, 0xb00327c8, 0xbf597fc7, 0xc6e00bf3, 0xd5a79147, 0x06ca6351, 0x14292967,
   0x27b70a85, 0x2e1b2138, 0x4d2c6dfc, 0x53380d13, 0x650a7354, 0x766a0abb, 0x81c2c92e, 0x92722c85,
   0xa2bfe8a1, 0xa81a664b, 0xc24b8b70, 0xc76c51a3, 0xd192e819, 0xd6990624, 0xf40e3585, 0x106aa070,
   0x19a4c116, 0x1e376c08, 0x2748774c, 0x34b0bcb5, 0x391c0cb3, 0x4ed8aa4a, 0x5b9cca4f, 0x682e6ff3,
   0x748f82ee, 0x78a5636f, 0x84c87814, 0x8cc70208, 0x90befffa, 0xa4506ceb, 0xbef9a3f7, 0xc67178f2]

def rotr (w : UInt32) (n : Nat) : UInt32 :=
  (w >>> UInt32.ofNat n) ||| (w <<< UInt32.ofNat (32 - n))

def smallSigma0 (w : UInt32) : UInt32 := rotr w 7 ^^^ rotr w 18 ^^^ (w >>> 3)
def smallSigma1 (w : UInt32) : UInt32 := rotr w 17 ^^^ rotr w 19 ^^^ (w >>> 10)
def bigSigma0 (w : UInt32) : UInt32 := rotr w 2 ^^^ rotr w 13 ^^^ rotr w 22
def bigSigma1 (w : UInt32) : UInt32 := rotr w 6 ^^^ rotr w 11 ^^^ rotr w 25
def choose (x y z : UInt32) : UInt32 := (x &&& y) ^^^ (~~~x &&& z)
def majority (x y z : UInt32) : UInt32 := (x &&& y) ^^^ (x &&& z) ^^^ (y &&& z)

def lengthBytes (n : Nat) : List UInt8 :=
  (List.range 8).map fun i => UInt8.ofNat (n * 8 / 256 ^ (7 - i))

def pad (message : List UInt8) : List UInt8 :=
  message ++ 0x80 :: List.replicate ((119 - message.length % 64) % 64) 0
    ++ lengthBytes message.length

def wordAt (block : List UInt8) (i : Nat) : UInt32 :=
  (List.range 4).foldl (fun w k => (w <<< 8) ||| (block.getD (4 * i + k) 0).toUInt32) 0

/-- The first sixteen words of the schedule, then `count` more. -/
def extend (words : List UInt32) : Nat → List UInt32
  | 0 => words
  | count + 1 =>
    let ws := extend words count
    let at' (back : Nat) := ws.getD (ws.length - back) 0
    ws ++ [smallSigma1 (at' 2) + at' 7 + smallSigma0 (at' 15) + at' 16]

def schedule (block : List UInt8) : List UInt32 :=
  extend ((List.range 16).map (wordAt block)) 48

def round (s : Working) (kw : UInt32 × UInt32) : Working :=
  let t1 := s.h + bigSigma1 s.e + choose s.e s.f s.g + kw.1 + kw.2
  let t2 := bigSigma0 s.a + majority s.a s.b s.c
  ⟨t1 + t2, s.a, s.b, s.c, s.d + t1, s.e, s.f, s.g⟩

def compress (s : Working) (block : List UInt8) : Working :=
  let t := (roundConstants.zip (schedule block)).foldl round s
  ⟨s.a + t.a, s.b + t.b, s.c + t.c, s.d + t.d, s.e + t.e, s.f + t.f, s.g + t.g, s.h + t.h⟩

def blocks (count : Nat) (bytes : List UInt8) : List (List UInt8) :=
  (List.range count).map fun i => (bytes.drop (64 * i)).take 64

def digest (message : List UInt8) : Working :=
  let padded := pad message
  (blocks (padded.length / 64) padded).foldl compress initial

/-- The eight hexadecimal digits of a word, high digit first. -/
def wordHex (w : UInt32) : List Char :=
  [28, 24, 20, 16, 12, 8, 4, 0].map fun shift => lowerHexDigit (w.toNat / 2 ^ shift % 16)

def Working.hex (s : Working) : List Char :=
  [s.a, s.b, s.c, s.d, s.e, s.f, s.g, s.h].flatMap wordHex

def sha256Hex (message : List UInt8) : String := String.ofList (digest message).hex

def isLowerHexDigit (c : Char) : Bool := c.isDigit || ('a' ≤ c && c ≤ 'f')

theorem lowerHexDigit_isLowerHexDigit {n : Nat} (h : n < 16) :
    isLowerHexDigit (lowerHexDigit n) = true := by
  have all : ∀ k : Fin 16, isLowerHexDigit (lowerHexDigit k.val) = true := by decide
  exact all ⟨n, h⟩

theorem isLowerHexDigit_utf8Size {c : Char} (h : isLowerHexDigit c = true) : c.utf8Size = 1 := by
  have small : c.val ≤ 'f'.val := by
    simp only [isLowerHexDigit, Char.isDigit, Bool.or_eq_true, Bool.and_eq_true,
      decide_eq_true_eq] at h
    rcases h with ⟨-, h⟩ | ⟨-, h⟩
    · exact UInt32.le_trans h (by decide)
    · exact h
  exact Char.utf8Size_eq_one_iff.mpr (UInt32.le_trans small (by decide))

theorem wordHex_all (w : UInt32) : ∀ c ∈ wordHex w, isLowerHexDigit c = true := by
  intro c hc
  simp only [wordHex, List.mem_map] at hc
  obtain ⟨shift, -, rfl⟩ := hc
  exact lowerHexDigit_isLowerHexDigit (Nat.mod_lt _ (by decide))

@[simp] theorem Working.hex_length (s : Working) : s.hex.length = 64 := by
  simp [hex, wordHex]

theorem Working.hex_all (s : Working) : ∀ c ∈ s.hex, isLowerHexDigit c = true := by
  intro c hc
  simp only [hex, List.mem_flatMap] at hc
  obtain ⟨w, -, hc⟩ := hc
  exact wordHex_all w c hc

/-- The digest text is 64 bytes long. -/
theorem sha256Hex_utf8ByteSize (message : List UInt8) : (sha256Hex message).utf8ByteSize = 64 := by
  rw [sha256Hex, Json.utf8ByteSize_ofList_ascii, Working.hex_length]
  exact fun c hc => isLowerHexDigit_utf8Size (Working.hex_all _ c hc)

/-- Every character of the digest text is a lower-case hexadecimal digit. -/
theorem sha256Hex_all (message : List UInt8) :
    (sha256Hex message).toList.all isLowerHexDigit = true := by
  rw [sha256Hex, String.toList_ofList, List.all_eq_true]
  exact Working.hex_all _

end StorageManager.Lib.Sha256
