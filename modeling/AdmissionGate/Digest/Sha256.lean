import AdmissionGate.Text.Utf8

/-!
The SHA-256 digest. A message is padded to whole blocks of sixteen words, each block is stretched to
sixty-four words, and the eight words of state take in one block after the other.
-/

namespace AdmissionGate.Sha256

open Text (Bytes)

/-- The words that the rounds add, one each. -/
def roundWords : List UInt32 :=
  [0x428a2f98, 0x71374491, 0xb5c0fbcf, 0xe9b5dba5, 0x3956c25b, 0x59f111f1, 0x923f82a4, 0xab1c5ed5,
    0xd807aa98, 0x12835b01, 0x243185be, 0x550c7dc3, 0x72be5d74, 0x80deb1fe, 0x9bdc06a7, 0xc19bf174,
    0xe49b69c1, 0xefbe4786, 0x0fc19dc6, 0x240ca1cc, 0x2de92c6f, 0x4a7484aa, 0x5cb0a9dc, 0x76f988da,
    0x983e5152, 0xa831c66d, 0xb00327c8, 0xbf597fc7, 0xc6e00bf3, 0xd5a79147, 0x06ca6351, 0x14292967,
    0x27b70a85, 0x2e1b2138, 0x4d2c6dfc, 0x53380d13, 0x650a7354, 0x766a0abb, 0x81c2c92e, 0x92722c85,
    0xa2bfe8a1, 0xa81a664b, 0xc24b8b70, 0xc76c51a3, 0xd192e819, 0xd6990624, 0xf40e3585, 0x106aa070,
    0x19a4c116, 0x1e376c08, 0x2748774c, 0x34b0bcb5, 0x391c0cb3, 0x4ed8aa4a, 0x5b9cca4f, 0x682e6ff3,
    0x748f82ee, 0x78a5636f, 0x84c87814, 0x8cc70208, 0x90befffa, 0xa4506ceb, 0xbef9a3f7, 0xc67178f2]

/-- The state: eight words. -/
structure State where
  a : UInt32
  b : UInt32
  c : UInt32
  d : UInt32
  e : UInt32
  f : UInt32
  g : UInt32
  h : UInt32
  deriving DecidableEq, Repr

def State.initial : State :=
  ⟨0x6a09e667, 0xbb67ae85, 0x3c6ef372, 0xa54ff53a, 0x510e527f, 0x9b05688c, 0x1f83d9ab, 0x5be0cd19⟩

/-- Rotation to the right. -/
def rotate (x : UInt32) (n : UInt32) : UInt32 :=
  (x >>> n) ||| (x <<< (32 - n))

/-- One round, with the round word and the word of the block. -/
def State.round (s : State) (k w : UInt32) : State :=
  let big₁ := rotate s.e 6 ^^^ rotate s.e 11 ^^^ rotate s.e 25
  let choice := (s.e &&& s.f) ^^^ ((~~~ s.e) &&& s.g)
  let t₁ := s.h + big₁ + choice + k + w
  let big₀ := rotate s.a 2 ^^^ rotate s.a 13 ^^^ rotate s.a 22
  let majority := (s.a &&& s.b) ^^^ (s.a &&& s.c) ^^^ (s.b &&& s.c)
  ⟨t₁ + big₀ + majority, s.a, s.b, s.c, s.d + t₁, s.e, s.f, s.g⟩

/-- The words of two states added up. -/
def State.add (s t : State) : State :=
  ⟨s.a + t.a, s.b + t.b, s.c + t.c, s.d + t.d, s.e + t.e, s.f + t.f, s.g + t.g, s.h + t.h⟩

/-- The next `n` words of a block, given the sixteen before them, and each word as it leaves. -/
def stretch : Nat → List UInt32 → List UInt32
  | 0, _ => []
  | n + 1, window =>
    let small₀ (x : UInt32) := rotate x 7 ^^^ rotate x 18 ^^^ (x >>> 3)
    let small₁ (x : UInt32) := rotate x 17 ^^^ rotate x 19 ^^^ (x >>> 10)
    let w := window.getD 0 0 + small₀ (window.getD 1 0) + window.getD 9 0 + small₁ (window.getD 14 0)
    window.getD 0 0 :: stretch n (window.drop 1 ++ [w])

/-- Takes in one block of sixteen words. -/
def State.absorb (s : State) (block : List UInt32) : State :=
  s.add (((stretch 64 block).zip roundWords).foldl (fun t (w, k) => t.round k w) s)

def bigEndian (octets n : Nat) : Bytes :=
  (List.range octets).reverse.map fun i => (n >>> (8 * i) % 256).toUInt8

/-- A message with the bit after it, zeros, and its length in bits: whole blocks of 64 octets. -/
def padded (m : Bytes) : Bytes :=
  m ++ 0x80 :: List.replicate ((119 - m.length % 64) % 64) 0 ++ bigEndian 8 (m.length * 8)

/-- The words that octets spell, four octets each. -/
def words : Bytes → List UInt32
  | a :: b :: c :: d :: rest =>
    (((a.toUInt32 * 256 + b.toUInt32) * 256 + c.toUInt32) * 256 + d.toUInt32) :: words rest
  | _ => []

/-- The words of a message in blocks of sixteen, `n` blocks at most. -/
def blocks : Nat → List UInt32 → List (List UInt32)
  | 0, _ => []
  | n + 1, ws => if ws.isEmpty then [] else ws.take 16 :: blocks n (ws.drop 16)

/-- The digest of a message, in hexadecimal digits. -/
def hexDigest (m : Bytes) : String :=
  let ws := words (padded m)
  let s := (blocks ws.length ws).foldl State.absorb State.initial
  let octets := [s.a, s.b, s.c, s.d, s.e, s.f, s.g, s.h].flatMap fun w => bigEndian 4 w.toNat
  String.ofList (octets.flatMap fun b =>
    [Nat.digitChar (b.toNat / 16), Nat.digitChar (b.toNat % 16)])

end AdmissionGate.Sha256
