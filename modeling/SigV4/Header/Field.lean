/-
  A header FIELD: a name and the values given under it.

  Names are compared by their lower-case form, the KEY of the field; the name is sent as it was
  given.  The line of a field with one value is that value, untouched; only where several values
  share the line are they quoted.
-/
import SigV4.Header.Value
import SigV4.Text.Case
import SigV4.Text.Literal

namespace SigV4

/-- A named header field with any number of values. -/
structure Field where
  name : String
  values : List String := []
deriving DecidableEq, Repr

namespace Field

/-- The lower-case name, by which fields are found. -/
def key (f : Field) : String := Text.lower f.name

/-- The field with one more value. -/
def add (f : Field) (value : String) : Field := { f with values := f.values ++ [value] }

/-- What stands between two values of a line that is sent. -/
def sentDelimiter : String := ", "

/-- **The field's values in a single line.** -/
def line (f : Field) (delimiter : String) : String :=
  match f.values with
  | [] => ""
  | [value] => value
  | values => delimiter.intercalate (values.map Header.quote)

/-- The field for a reader of messages. -/
def describe (f : Field) : String :=
  "Field(name=" ++ Text.literal f.name ++ ", values=" ++ Text.literals f.values ++ ")"

@[simp] theorem key_add (f : Field) (value : String) : (f.add value).key = f.key := rfl

end Field

end SigV4
