/-!
# Fingerprints of texts

A 64-bit fingerprint of the UTF-8 bytes of a text, from two words of state that multiplication
folds together.  Different texts can have one fingerprint.
-/

namespace MonkeyLang.Text.Fingerprint

/-- The two halves of the 128-bit product of two words, combined. -/
def fold (x y : UInt64) : UInt64 :=
  let product := x.toNat * y.toNat
  .ofNat product ^^^ .ofNat (product / Nat.pow 2 64)

/-- The number that bytes stand for, the least significant byte first. -/
def littleEndian (bytes : List UInt8) : UInt64 :=
  bytes.foldr (fun b n => n <<< 8 ||| b.toUInt64) 0

/-- The number in `count` bytes from a position. -/
def word (bytes : List UInt8) (position count : Nat) : UInt64 :=
  littleEndian ((bytes.drop position).take count)

/-- The state before any bytes: the first digits of the fraction of pi. -/
def seed : UInt64 × UInt64 := (0x243f6a8885a308d3, 0x13198a2e03707344)

/-- The state after the bytes of a text of at most 16 bytes. -/
def absorbShort (bytes : List UInt8) : UInt64 × UInt64 :=
  let n := bytes.length
  if 8 ≤ n then (seed.1 ^^^ word bytes 0 8, seed.2 ^^^ word bytes (n - 8) 8)
  else if 4 ≤ n then (seed.1 ^^^ word bytes 0 4, seed.2 ^^^ word bytes (n - 4) 4)
  else if 1 ≤ n then
    (seed.1 ^^^ word bytes 0 1, seed.2 ^^^ (word bytes (n - 1) 1 <<< 8 ||| word bytes (n / 2) 1))
  else seed

/-- The state after a number of blocks of 16 bytes. -/
def absorbBlocks (state : UInt64 × UInt64) (bytes : List UInt8) : Nat → UInt64 × UInt64
  | 0 => state
  | blocks + 1 =>
    absorbBlocks
      (state.2, fold (state.1 ^^^ word bytes 0 8) (0xa4093822299f31d0 ^^^ word bytes 8 8))
      (bytes.drop 16) blocks

/-- The state after the bytes of a text of more than 16 bytes: every full block that ends before
the last byte, and then the last 16 bytes. -/
def absorbLong (bytes : List UInt8) : UInt64 × UInt64 :=
  let n := bytes.length
  let state := absorbBlocks seed bytes ((n - 1) / 16)
  (state.1 ^^^ word bytes (n - 16) 8, state.2 ^^^ word bytes (n - 8) 8)

/-- The bits of a word moved to the left, those that leave it coming in again on the right. -/
def rotateLeft (x : UInt64) (count : UInt64) : UInt64 := x <<< count ||| x >>> (64 - count)

/-- The fingerprint of a list of bytes. -/
def ofBytes (bytes : List UInt8) : UInt64 :=
  let state := if bytes.length ≤ 16 then absorbShort bytes else absorbLong bytes
  rotateLeft ((fold state.1 state.2 ^^^ .ofNat bytes.length) * 0xf1357aea2e62a9c5) 26

/-- The fingerprint of a text. -/
def ofString (s : String) : UInt64 := ofBytes s.toUTF8.data.toList

end MonkeyLang.Text.Fingerprint
