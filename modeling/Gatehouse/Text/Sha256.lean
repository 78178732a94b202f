/-!
# SHA-256 digests

The digest of a byte text: the text is padded to whole blocks of 64 bytes, and each block is mixed into
eight words of state.

* `Sha256.digest` is the digest as eight words, `Sha256.hex` as 64 hexadecimal digits in small letters.
-/

namespace Gatehouse.Text.Sha256

/-- The word rotated to the right by `n` places. -/
def rotate (w : UInt32) (n : UInt32) : UInt32 := (w >>> n) ||| (w <<< (32 - n))

/-- The constants of the 64 rounds. -/
def roundConstants : List UInt32 := [
  0x428a2f98, 0x71374491, 0xb5c0fbcf, 0xe9b5dba5, 0x3956c25b, 0x59f111f1, 0x923f82a4, 0xab1c5ed5,
  0xd807aa98, 0x12835b01, 0x243185be, 0x550c7dc3, 0x72be5d74, 0x80deb1fe, 0x9bdc06a7, 0xc19bf174,
  0xe49b69c1, 0xefbe4786, 0x0fc19dc6, 0x240ca1cc, 0x2de92c6f, 0x4a7484aa, 0x5cb0a9dc, 0x76f988da,
  0x983e5152, 0xa831c66d, 0xb00327c8, 0xbf597fc7, 0xc6e00bf3, 0xd5a79147, 0x06ca6351, 0x14292967,
  0x27b70a85, 0x2e1b2138, 0x4d2c6dfc, 0x53380d13, 0x650a7354, 0x766a0abb, 0x81c2c92e, 0x92722c85,
  0xa2bfe8a1, 0xa81a664b, 0xc24b8b70, 0xc76c51a3, 0xd192e819, 0xd6990624, 0xf40e3585, 0x106aa070,
  0x19a4c116, 0x1e376c08, 0x2748774c, 0x34b0bcb5, 0x391c0cb3, 0x4ed8aa4a, 0x5b9cca4f, 0x682e6ff3,
  0x748f82ee, 0x78a5636f, 0x84c87814, 0x8cc70208, 0x90befffa, 0xa4506ceb, 0xbef9a3f7, 0xc67178f2]

/-- The state: eight words. -/
structure State where
  a : UInt32
  b : UInt32
  c : UInt32
  d : UInt32
  e : UInt32
  f : UInt32
  g : UInt32
  h : UInt32

/-- The state before the first block. -/
def start : State :=
  ⟨0x6a09e667, 0xbb67ae85, 0x3c6ef372, 0xa54ff53a, 0x510e527f, 0x9b05688c, 0x1f83d9ab, 0x5be0cd19⟩

/-- The words of a byte text, most significant byte first. -/
def words : List UInt8 → List UInt32
  | a :: b :: c :: d :: rest =>
    (((a.toUInt32 <<< 24) ||| (b.toUInt32 <<< 16) ||| (c.toUInt32 <<< 8) ||| d.toUInt32)) :: words rest
  | _ => []

/-- The words of a message schedule after the sixteen words of the block; `last` are the words so far,
    last one first. -/
def extend : (steps : Nat) → (last : List UInt32) → List UInt32
  | 0, last => last.reverse
  | steps + 1, last =>
    let w (n : Nat) := last.getD (n - 1) 0
    let s₀ := rotate (w 15) 7 ^^^ rotate (w 15) 18 ^^^ (w 15 >>> 3)
    let s₁ := rotate (w 2) 17 ^^^ rotate (w 2) 19 ^^^ (w 2 >>> 10)
    extend steps ((w 16 + s₀ + w 7 + s₁) :: last)

/-- One round. -/
def round (s : State) (constant word : UInt32) : State :=
  let s₁ := rotate s.e 6 ^^^ rotate s.e 11 ^^^ rotate s.e 25
  let choice := (s.e &&& s.f) ^^^ ((s.e ^^^ 0xffffffff) &&& s.g)
  let t₁ := s.h + s₁ + choice + constant + word
  let s₀ := rotate s.a 2 ^^^ rotate s.a 13 ^^^ rotate s.a 22
  let majority := (s.a &&& s.b) ^^^ (s.a &&& s.c) ^^^ (s.b &&& s.c)
  ⟨t₁ + (s₀ + majority), s.a, s.b, s.c, s.d + t₁, s.e, s.f, s.g⟩

/-- The state after a block of 64 bytes. -/
def mix (s : State) (block : List UInt8) : State :=
  let schedule := extend 48 (words block).reverse
  let t := (roundConstants.zip schedule).foldl (fun t (k, w) => round t k w) s
  ⟨s.a + t.a, s.b + t.b, s.c + t.c, s.d + t.d, s.e + t.e, s.f + t.f, s.g + t.g, s.h + t.h⟩

/-- A number as `n` bytes, most significant byte first. -/
def bigEndian (n value : Nat) : List UInt8 :=
  (List.range n).reverse.map (fun i => UInt8.ofNat (value / Nat.pow 256 i))

/-- The text with a one bit, zeros and its length in bits behind it, so that it fills whole blocks. -/
def padded (bytes : List UInt8) : List UInt8 :=
  bytes ++ 0x80 :: (List.replicate ((119 - bytes.length % 64) % 64) 0 ++
    bigEndian 8 (bytes.length * 8))

/-- The state after `count` blocks. -/
def mixAll : (count : Nat) → State → List UInt8 → State
  | 0, s, _ => s
  | count + 1, s, bytes => mixAll count (mix s (bytes.take 64)) (bytes.drop 64)

/-- The digest of a byte text, as the last state. -/
def digest (bytes : List UInt8) : State :=
  let p := padded bytes
  mixAll (p.length / 64) start p

/-- A word as eight hexadecimal digits. -/
def wordHex (w : UInt32) : List Char :=
  (bigEndian 4 w.toNat).flatMap (fun b =>
    let digit (n : Nat) := if n < 10 then Char.ofNat (0x30 + n) else Char.ofNat (0x57 + n)
    [digit (b.toNat / 16), digit (b.toNat % 16)])

/-- **The digest of a byte text**, in hexadecimal digits. -/
def hex (bytes : List UInt8) : String :=
  let s := digest bytes
  String.ofList ([s.a, s.b, s.c, s.d, s.e, s.f, s.g, s.h].flatMap wordHex)

end Gatehouse.Text.Sha256
