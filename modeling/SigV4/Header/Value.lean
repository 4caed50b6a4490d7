/-
  The VALUE of a header field, as it is signed and as it is sent.

  1. **Signed** — `normalize` trims the blanks at both ends and makes one space of every run of
     blanks, but copies what stands between two double quotes as it is.  Quotes are paired from left
     to right; an odd last one is an ordinary character.
  2. **Sent** — in a line with several values, `quote` puts a value that holds a comma or a double
     quote in double quotes, with a backslash before each double quote and backslash.
-/
import SigV4.Text.Blank
import SigV4.Text.Marks
import SigV4.Text.Split

namespace SigV4.Header

open Text

/-! ## The signed form -/

/-- One space for every run of blanks outside of double quotes. -/
def collapse : List Char → List Char
  | [] => []
  | c :: rest =>
    if c = doubleQuote then
      match _ : cut doubleQuote rest with
      | (inside, some after) => doubleQuote :: inside ++ doubleQuote :: collapse after
      | (_, none) => doubleQuote :: collapse rest
    else if isBlank c then ' ' :: collapse (rest.dropWhile isBlank)
    else c :: collapse rest
termination_by cs => cs.length
decreasing_by
  · rename_i h
    have := length_of_cut h
    simp only [List.length_cons]
    omega
  · simp
  · have := (List.dropWhile_sublist isBlank (l := rest)).length_le
    simp only [List.length_cons]
    omega
  · simp

/-- **The signed form of a value.** -/
def normalize (value : String) : String := String.ofList (collapse (trim value.toList))

/-! ## The form that is sent -/

/-- One character between double quotes. -/
def escapeChar (c : Char) : List Char :=
  if c = doubleQuote ∨ c = backslash then [backslash, c] else [c]

/-- **A value of several in one line.** -/
def quote (value : String) : String :=
  if ',' ∈ value.toList ∨ doubleQuote ∈ value.toList then
    String.ofList (doubleQuote :: value.toList.flatMap escapeChar ++ [doubleQuote])
  else value

end SigV4.Header
