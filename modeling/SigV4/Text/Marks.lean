/-
  The quotation marks and the backslash, by name.
-/

namespace SigV4.Text

/-- The single quote. -/
def singleQuote : Char := Char.ofNat 0x27

/-- The double quote. -/
def doubleQuote : Char := Char.ofNat 0x22

/-- The backslash. -/
def backslash : Char := Char.ofNat 0x5C

end SigV4.Text
