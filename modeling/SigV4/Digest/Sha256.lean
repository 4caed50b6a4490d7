/-
  SHA-256.

  1. **Padding** — a message of `n` bytes is followed by `80`, by zeros, and by its length in bits
     as eight bytes, so that the whole is a multiple of sixty-four bytes.
  2. **Compression** — each block of sixteen words is stretched to sixty-four by a window that
     slides over the last sixteen words, and each of them turns the eight words of the state once.
  3. **Digest** — the eight words of the last state, four bytes each.

  The main statement is about size: `length_digest`, a digest has THIRTY-TWO BYTES.
-/
import SigV4.Bytes

namespace SigV4.Sha256

/-! ## Words and state -/

/-- The eight working words. -/
structure State where
  a : UInt32
  b : UInt32
  c : UInt32
  d : UInt32
  e : UInt32
  f : UInt32
  g : UInt32
  h : UInt32

/-- The state before the first block: the fractional parts of the square roots of the first eight
primes. -/
def State.first : State :=
  ⟨0x6a09e667, 0xbb67ae85, 0x3c6ef372, 0xa54ff53a,
   0x510e527f, 0x9b05688c, 0x1f83d9ab, 0x5be0cd19⟩

/-- Word by word addition. -/
def State.add (s t : State) : State :=
  ⟨s.a + t.a, s.b + t.b, s.c + t.c, s.d + t.d, s.e + t.e, s.f + t.f, s.g + t.g, s.h + t.h⟩

/-- The constants of the sixty-four turns: the fractional parts of the cube roots of the first
sixty-four primes. -/
def turnConstants : List UInt32 := [
  0x428a2f98, 0x71374491, 0xb5c0fbcf, 0xe9b5dba5, 0x3956c25b, 0x59f111f1, 0x923f82a4, 0xab1c5ed5,
  0xd807aa98, 0x12835b01, 0x243185be, 0x550c7dc3, 0x72be5d74, 0x80deb1fe, 0x9bdc06a7, 0xc19bf174,
  0xe49b69c1, 0xefbe4786, 0x0fc19dc6, 0x240ca1cc, 0x2de92c6f, 0x4a7484aa, 0x5cb0a9dc, 0x76f988da,
  0x983e5152, 0xa831c66d, 0xb00327c8, 0xbf597fc7, 0xc6e00bf3, 0xd5a79147, 0x06ca6351, 0x14292967,
  0x27b70a85, 0x2e1b2138, 0x4d2c6dfc, 0x53380d13, 0x650a7354, 0x766a0abb, 0x81c2c92e, 0x92722c85,
  0xa2bfe8a1, 0xa81a664b, 0xc24b8b70, 0xc76c51a3, 0xd192e819, 0xd6990624, 0xf40e3585, 0x106aa070,
  0x19a4c116, 0x1e376c08, 0x2748774c, 0x34b0bcb5, 0x391c0cb3, 0x4ed8aa4a, 0x5b9cca4f, 0x682e6ff3,
  0x748f82ee, 0x78a5636f, 0x84c87814, 0x8cc70208, 0x90befffa, 0xa4506ceb, 0xbef9a3f7, 0xc67178f2]

/-- Rotation to the right. -/
@[inline] def rotate (x : UInt32) (n : UInt32) : UInt32 := (x >>> n) ||| (x <<< (32 - n))

/-! ## Compression -/

/-- One turn: the state takes in the word `w` with the constant `k`. -/
def turn (s : State) (k w : UInt32) : State :=
  let t₁ := s.h + (rotate s.e 6 ^^^ rotate s.e 11 ^^^ rotate s.e 25)
    + ((s.e &&& s.f) ^^^ (~~~s.e &&& s.g)) + k + w
  let t₂ := (rotate s.a 2 ^^^ rotate s.a 13 ^^^ rotate s.a 22)
    + ((s.a &&& s.b) ^^^ (s.a &&& s.c) ^^^ (s.b &&& s.c))
  ⟨t₁ + t₂, s.a, s.b, s.c, s.d + t₁, s.e, s.f, s.g⟩

/-- The word that follows the sixteen words of a window. -/
def nextWord : List UInt32 → UInt32
  | [w₀, w₁, _, _, _, _, _, _, _, w₉, _, _, _, _, w₁₄, _] =>
    (rotate w₁₄ 17 ^^^ rotate w₁₄ 19 ^^^ (w₁₄ >>> 10)) + w₉
      + (rotate w₁ 7 ^^^ rotate w₁ 18 ^^^ (w₁ >>> 3)) + w₀
  | _ => 0

/-- One turn for each constant, the window sliding by one word a turn. -/
def turns (s : State) (window : List UInt32) : List UInt32 → State
  | [] => s
  | k :: ks =>
    turns (turn s k (window.headD 0)) (window.tail ++ [nextWord window]) ks

/-- The state after one more block of sixteen words. -/
def compress (s : State) (block : List UInt32) : State :=
  s.add (turns s block turnConstants)

/-! ## Padding and blocks -/

/-- The big-endian word of four bytes. -/
def word (p q r s : UInt8) : UInt32 :=
  (p.toUInt32 <<< 24) ||| (q.toUInt32 <<< 16) ||| (r.toUInt32 <<< 8) ||| s.toUInt32

/-- The four bytes of a word, the most significant first. -/
def wordBytes (w : UInt32) : Bytes :=
  [(w >>> 24).toUInt8, (w >>> 16).toUInt8, (w >>> 8).toUInt8, w.toUInt8]

/-- The bytes as big-endian words; bytes that make no whole word are dropped. -/
def words : Bytes → List UInt32
  | p :: q :: r :: s :: rest => word p q r s :: words rest
  | _ => []

/-- The number in eight bytes, the most significant first. -/
def lengthBytes (n : Nat) : Bytes :=
  [56, 48, 40, 32, 24, 16, 8, 0].map fun shift => UInt8.ofNat (n >>> shift)

/-- What follows a message of `n` bytes. -/
def padding (n : Nat) : Bytes :=
  0x80 :: List.replicate ((119 - n % 64) % 64) 0 ++ lengthBytes (8 * n)

/-- Takes in all whole blocks of sixteen words. -/
def absorb (s : State) (ws : List UInt32) : State :=
  match _ : ws.drop 15 with
  | [] => s
  | _ :: rest => absorb (compress s (ws.take 16)) rest
termination_by ws.length
decreasing_by
  rename_i w h
  have := congrArg List.length h
  simp only [List.length_drop, List.length_cons] at this
  omega

/-! ## The digest -/

/-- The bytes of a state. -/
def State.bytes (s : State) : Bytes :=
  wordBytes s.a ++ wordBytes s.b ++ wordBytes s.c ++ wordBytes s.d
    ++ wordBytes s.e ++ wordBytes s.f ++ wordBytes s.g ++ wordBytes s.h

/-- **The SHA-256 digest of a message.** -/
def digest (message : Bytes) : Bytes :=
  (absorb State.first (words (message ++ padding message.length))).bytes

/-- The digest in lower-case hexadecimal. -/
def hexDigest (message : Bytes) : String := String.ofList (Hex.ofBytes (digest message))

@[simp] theorem length_bytes (s : State) : s.bytes.length = 32 := rfl

/-- A digest has THIRTY-TWO BYTES. -/
@[simp] theorem length_digest (message : Bytes) : (digest message).length = 32 := rfl

/-- A digest in hexadecimal has SIXTY-FOUR DIGITS. -/
@[simp] theorem length_hexDigest (message : Bytes) : (hexDigest message).length = 64 := by
  simp [hexDigest]

end SigV4.Sha256
