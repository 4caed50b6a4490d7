/-
  UTF-8, written strictly and read forgivingly.

  1. **Writing** — `Utf8.encode` is the UTF-8 form of a text, one to four bytes a character.
  2. **Reading** — `Utf8.decode` accepts ANY bytes.  What is well formed is read as it was written;
     every MAXIMAL ILL-FORMED PART becomes one `U+FFFD`.  A part is ill formed as soon as the bytes
     seen so far can no longer be continued to a character, and the byte that shows it starts
     afresh: `E2 82 41` reads as `U+FFFD A`, while `C0 80` reads as two `U+FFFD`.
     The first byte decides the range of the second (this is what keeps out overlong forms,
     surrogates and values above `U+10FFFF`), every later byte lies in `80 … BF`.
-/
import SigV4.Bytes

namespace SigV4.Utf8

/-- The UTF-8 form of a text. -/
def encode (cs : List Char) : Bytes := cs.flatMap String.utf8EncodeChar

/-- The UTF-8 form of a string. -/
def ofString (s : String) : Bytes := encode s.toList

@[simp] theorem encode_nil : encode [] = [] := rfl

@[simp] theorem encode_cons (c : Char) (cs : List Char) :
    encode (c :: cs) = String.utf8EncodeChar c ++ encode cs := rfl

@[simp] theorem encode_append (a b : List Char) : encode (a ++ b) = encode a ++ encode b :=
  List.flatMap_append

/-- The character that stands for what cannot be read. -/
def replacement : Char := Char.ofNat 0xFFFD

/-- A byte that may continue a character begun earlier. -/
def isTrail (b : UInt8) : Bool := 0x80 ≤ b && b ≤ 0xBF

/-- The bytes that may follow a first byte of a three-byte form: the first of them rules out
overlong forms, the second surrogates. -/
def isSecondOfThree (a b : UInt8) : Bool :=
  if a = 0xE0 then 0xA0 ≤ b && b ≤ 0xBF
  else if a = 0xED then 0x80 ≤ b && b ≤ 0x9F
  else isTrail b

/-- The bytes that may follow a first byte of a four-byte form: overlong forms and values above
the last code point are ruled out. -/
def isSecondOfFour (a b : UInt8) : Bool :=
  if a = 0xF0 then 0x90 ≤ b && b ≤ 0xBF
  else if a = 0xF4 then 0x80 ≤ b && b ≤ 0x8F
  else isTrail b

/-- The six low bits that a continuing byte carries. -/
def low (b : UInt8) : Nat := b.toNat - 0x80

/-- What stands at the start of `a :: rest`: the character there and how many bytes of `rest` belong
to it.  Where no character can be read this is `U+FFFD` and the rest of the ill-formed part. -/
def first (a : UInt8) (rest : Bytes) : Char × Nat :=
  if a < 0x80 then (Char.ofNat a.toNat, 0)
  else if 0xC2 ≤ a ∧ a ≤ 0xDF then
    match rest with
    | b :: _ =>
      if isTrail b then (Char.ofNat ((a.toNat - 0xC0) * 64 + low b), 1) else (replacement, 0)
    | [] => (replacement, 0)
  else if 0xE0 ≤ a ∧ a ≤ 0xEF then
    match rest with
    | b :: c :: _ =>
      if isSecondOfThree a b then
        if isTrail c then (Char.ofNat ((a.toNat - 0xE0) * 4096 + low b * 64 + low c), 2)
        else (replacement, 1)
      else (replacement, 0)
    | [b] => (replacement, if isSecondOfThree a b then 1 else 0)
    | [] => (replacement, 0)
  else if 0xF0 ≤ a ∧ a ≤ 0xF4 then
    match rest with
    | b :: c :: d :: _ =>
      if isSecondOfFour a b then
        if isTrail c then
          if isTrail d then
            (Char.ofNat ((a.toNat - 0xF0) * 262144 + low b * 4096 + low c * 64 + low d), 3)
          else (replacement, 2)
        else (replacement, 1)
      else (replacement, 0)
    | [b, c] =>
      (replacement, if isSecondOfFour a b then if isTrail c then 2 else 1 else 0)
    | [b] => (replacement, if isSecondOfFour a b then 1 else 0)
    | [] => (replacement, 0)
  else (replacement, 0)

/-- **Reads any bytes as UTF-8,** one `U+FFFD` for each maximal ill-formed part. -/
def decode : Bytes → List Char
  | [] => []
  | a :: rest => (first a rest).1 :: decode (rest.drop (first a rest).2)
termination_by bs => bs.length
decreasing_by simp only [List.length_drop, List.length_cons]; omega

@[simp] theorem decode_nil : decode [] = [] := by rw [decode]

theorem decode_cons (a : UInt8) (rest : Bytes) :
    decode (a :: rest) = (first a rest).1 :: decode (rest.drop (first a rest).2) := by
  rw [decode]

end SigV4.Utf8
