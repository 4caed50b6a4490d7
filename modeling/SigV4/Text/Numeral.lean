/-
  Whole numbers written as text.

  A numeral may have blanks around it, one sign before it, digits of ANY SCRIPT, and a single
  underscore between two digits: ` +1_000 `, `-0042`, `٤٢`.  A numeral with more than
  `maxDigits` digits is refused, leading zeros counted.

  1. **Digits** — `digitValue?` reads a digit of any script: each script has its ten digits in
     order from one of the code points `zeros`.
  2. **Magnitudes** — `magnitude?` reads digits and underscores from left to right.
  3. **Numerals** — `readInt` puts blanks and sign around it.
-/
import SigV4.Text.Blank

namespace SigV4.Text

/-- The digit zero of every script. -/
def zeros : List Nat := [
  0x30, 0x660, 0x6F0, 0x7C0, 0x966, 0x9E6, 0xA66, 0xAE6, 0xB66, 0xBE6, 0xC66, 0xCE6, 0xD66, 0xDE6,
  0xE50, 0xED0, 0xF20, 0x1040, 0x1090, 0x17E0, 0x1810, 0x1946, 0x19D0, 0x1A80, 0x1A90, 0x1B50,
  0x1BB0, 0x1C40, 0x1C50, 0xA620, 0xA8D0, 0xA900, 0xA9D0, 0xA9F0, 0xAA50, 0xABF0, 0xFF10, 0x104A0,
  0x10D30, 0x11066, 0x110F0, 0x11136, 0x111D0, 0x112F0, 0x11450, 0x114D0, 0x11650, 0x116C0,
  0x11730, 0x118E0, 0x11950, 0x11C50, 0x11D50, 0x11DA0, 0x16A60, 0x16AC0, 0x16B50, 0x1D7CE,
  0x1D7D8, 0x1D7E2, 0x1D7EC, 0x1D7F6, 0x1E140, 0x1E2F0, 0x1E950, 0x1FBF0]

/-- The value of a decimal digit of any script. -/
def digitValue? (c : Char) : Option Nat :=
  let n := c.toNat
  (zeros.find? fun z => z ≤ n && n < z + 10).map (n - ·)

/-- More digits than this are not read as a number, and not written. -/
def maxDigits : Nat := 4300

/-- A blank that may stand around a numeral: every blank but the four information separators. -/
def isOuterBlank (c : Char) : Bool := isBlank c && !(0x1C ≤ c.toNat && c.toNat ≤ 0x1F)

/-- Reads digits, with a single underscore allowed between two of them, onto the number `value`
that `count` digits have made so far.  Only after a digit may an underscore follow or the text
end. -/
def magnitudeFrom? (value count : Nat) (afterDigit : Bool) : List Char → Option (Nat × Nat)
  | [] => if afterDigit then some (value, count) else none
  | c :: rest =>
    if c = '_' then
      if afterDigit then magnitudeFrom? value count false rest else none
    else match digitValue? c with
      | some d => magnitudeFrom? (10 * value + d) (count + 1) true rest
      | none => none

/-- The number that a run of digits and underscores writes. -/
def magnitude? (cs : List Char) : Option Nat :=
  match magnitudeFrom? 0 0 false cs with
  | some (value, count) => if count ≤ maxDigits then some value else none
  | none => none

/-- **The whole number that a text writes,** if it writes one. -/
def readInt (s : String) : Option Int :=
  let core := (((s.toList.dropWhile isOuterBlank).reverse).dropWhile isOuterBlank).reverse
  match core with
  | '-' :: rest => (magnitude? rest).map fun n => -(n : Int)
  | '+' :: rest => (magnitude? rest).map Int.ofNat
  | _ => (magnitude? core).map Int.ofNat

/-- The text of a number, unless it would have more than `maxDigits` digits. -/
def showInt? (i : Int) : Option String :=
  if i.natAbs < Nat.pow 10 maxDigits then some (toString i) else none

end SigV4.Text
