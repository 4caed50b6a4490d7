/-
  Byte strings and their HEXADECIMAL forms.

  Everything that is hashed, framed or sent is a plain `List UInt8`, so that a statement about a
  payload is a statement about a list.  Signatures and digests are shown in lower-case hexadecimal,
  percent-escapes in upper case, and the length of a chunk in as few lower-case digits as it needs.

  1. **Digits** — `Hex.digit` and `Hex.upperDigit` write one of the sixteen digits, `Hex.value?`
     reads either letter case.
  2. **Texts** — `Hex.ofBytes` writes two digits a byte, `Hex.ofNat` writes a number with no
     leading zero, `Hex.ofInt` puts a minus sign before it.
  3. **Sizes** — `length_ofBytes` (two digits a byte) and `length_ofNat_le` (a number has no more
     digits than its value, unless it is zero): the two facts that bound the size of a frame.
-/

namespace SigV4

/-- A byte string. -/
abbrev Bytes := List UInt8

namespace Hex

/-! ## Digits -/

/-- The lower-case digit for a value below sixteen. -/
def digit (n : Nat) : Char := if n < 10 then Char.ofNat (48 + n) else Char.ofNat (87 + n)

/-- The upper-case digit for a value below sixteen. -/
def upperDigit (n : Nat) : Char := if n < 10 then Char.ofNat (48 + n) else Char.ofNat (55 + n)

/-- The value of an ASCII hexadecimal digit of either letter case. -/
def value? (c : Char) : Option Nat :=
  let n := c.toNat
  if 48 ≤ n ∧ n ≤ 57 then some (n - 48)
  else if 65 ≤ n ∧ n ≤ 70 then some (n - 55)
  else if 97 ≤ n ∧ n ≤ 102 then some (n - 87)
  else none

/-! ## Texts -/

/-- Two lower-case digits for each byte. -/
def ofBytes (bs : Bytes) : List Char :=
  bs.flatMap fun b => [digit (b.toNat / 16), digit (b.toNat % 16)]

/-- The lower-case digits of a number, the most significant first and no leading zero. -/
def ofNat (n : Nat) : List Char :=
  if n < 16 then [digit n] else ofNat (n / 16) ++ [digit (n % 16)]
termination_by n
decreasing_by omega

/-- The digits of the absolute value, behind a minus sign for a negative number. -/
def ofInt (i : Int) : List Char :=
  if i < 0 then '-' :: ofNat i.natAbs else ofNat i.natAbs

/-- The bytes that pairs of digits stand for; a pair that is not two digits ends the text. -/
def toBytes : List Char → Bytes
  | a :: b :: rest =>
    match value? a, value? b with
    | some h, some l => UInt8.ofNat (16 * h + l) :: toBytes rest
    | _, _ => []
  | _ => []

/-! ## Sizes -/

@[simp] theorem ofBytes_nil : ofBytes [] = [] := rfl

@[simp] theorem ofBytes_cons (b : UInt8) (bs : Bytes) :
    ofBytes (b :: bs) = digit (b.toNat / 16) :: digit (b.toNat % 16) :: ofBytes bs := rfl

/-- Two digits a byte. -/
@[simp] theorem length_ofBytes (bs : Bytes) : (ofBytes bs).length = 2 * bs.length := by
  induction bs with
  | nil => rfl
  | cons b bs ih => simp only [ofBytes_cons, List.length_cons, ih]; omega

/-- A number is never written with nothing. -/
theorem length_ofNat_pos (n : Nat) : 0 < (ofNat n).length := by
  rw [ofNat]; split <;> simp

/-- A number other than zero has NO MORE DIGITS THAN ITS VALUE. -/
theorem length_ofNat_le (n : Nat) : (ofNat n).length ≤ max 1 n := by
  induction n using Nat.strongRecOn with
  | ind n ih =>
    rw [ofNat]
    split
    · exact Nat.le_max_left 1 n
    · have := ih (n / 16) (by omega)
      simp only [List.length_append, List.length_cons, List.length_nil]
      omega

end Hex

end SigV4
