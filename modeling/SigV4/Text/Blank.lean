/-
  WHITE SPACE in header values.

  A character is blank when it is one of the twenty-nine that separate words or lines, in any
  script: the ASCII controls `U+0009 … U+000D` and `U+001C … U+001F`, the space, the next-line
  control, the no-break spaces, and the typographic spaces and separators.
-/

namespace SigV4.Text

/-- A character that separates words or lines. -/
def isBlank (c : Char) : Bool :=
  let n := c.toNat
  (0x09 ≤ n && n ≤ 0x0D) || (0x1C ≤ n && n ≤ 0x20) || n == 0x85 || n == 0xA0 || n == 0x1680
    || (0x2000 ≤ n && n ≤ 0x200A) || n == 0x2028 || n == 0x2029 || n == 0x202F || n == 0x205F
    || n == 0x3000

/-- The text without the blanks at its start. -/
def dropBlanks (cs : List Char) : List Char := cs.dropWhile isBlank

/-- The text without the blanks at its start and at its end. -/
def trim (cs : List Char) : List Char := (dropBlanks (dropBlanks cs).reverse).reverse

end SigV4.Text
