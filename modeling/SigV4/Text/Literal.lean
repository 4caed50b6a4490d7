/-
  Texts QUOTED in a message.

  Single quotes enclose a text, unless it holds a single quote and no double quote: then double
  quotes do.  Inside, a backslash and the enclosing quote are escaped by a backslash, the line feed,
  carriage return and tab by their letters, and every character without a glyph of its own by its
  code, in the shortest of the forms `\xhh`, `\uhhhh`, `\Uhhhhhhhh`.
-/
import SigV4.Bytes
import SigV4.Text.Marks
import SigV4.Text.Printable

namespace SigV4.Text

/-- `n` in lower-case hexadecimal, padded with zeros to `width` digits. -/
def paddedHex (width n : Nat) : List Char :=
  List.replicate (width - (Hex.ofNat n).length) '0' ++ Hex.ofNat n

/-- One character between two `quote`s. -/
def literalChar (quote c : Char) : List Char :=
  if c = quote ∨ c = backslash then [backslash, c]
  else if c = '\n' then [backslash, 'n']
  else if c = '\r' then [backslash, 'r']
  else if c = '\t' then [backslash, 't']
  else if isPrintable c then [c]
  else if c.toNat < 0x100 then backslash :: 'x' :: paddedHex 2 c.toNat
  else if c.toNat < 0x10000 then backslash :: 'u' :: paddedHex 4 c.toNat
  else backslash :: 'U' :: paddedHex 8 c.toNat

/-- The quote that encloses a text. -/
def enclosingQuote (cs : List Char) : Char :=
  if singleQuote ∈ cs ∧ doubleQuote ∉ cs then doubleQuote else singleQuote

/-- **A text in quotes.** -/
def literal (s : String) : String :=
  let quote := enclosingQuote s.toList
  String.ofList (quote :: s.toList.flatMap (literalChar quote) ++ [quote])

/-- The elements one after the other in brackets. -/
def bracketed (items : List String) : String := "[" ++ ", ".intercalate items ++ "]"

/-- A list of texts in brackets. -/
def literals (ss : List String) : String := bracketed (ss.map literal)

end SigV4.Text
