/-
  CHANGES to a collection of fields, and the fields that a caller HOLDS meanwhile.

  1. **Changes** — a field is set, erased, or given one more value; only the last can fail, and then
     nothing changes.
  2. **Held fields** — a field that was looked up stays the collection's own until another takes its
     place or it is erased.  Until then, values that are added under its name show in it as well;
     `HeldField.after` follows it through a change.
-/
import SigV4.Fault
import SigV4.Header.Fields

namespace SigV4

/-- A change to a collection of fields. -/
inductive FieldsChange where
  | set (f : Field)
  | erase (name : String)
  | add (name value : String)
deriving DecidableEq, Repr

namespace FieldsChange

/-- The key of the field that a change is about. -/
def key : FieldsChange → String
  | set f => f.key
  | erase name => Text.lower name
  | add name _ => Text.lower name

end FieldsChange

/-- **The fields after a change.** -/
def Fields.apply (fs : Fields) : FieldsChange → Except Fault Fields
  | .set f => .ok (fs.set f)
  | .erase name => .ok (fs.erase name)
  | .add name value =>
    match fs.addValue? name value with
    | some after => .ok after
    | none => .error .noSuchField

/-- A field that was looked up, and whether it still is the collection's. -/
structure HeldField where
  field : Field
  attached : Bool := true
deriving DecidableEq, Repr

namespace HeldField

/-- **The held field after a change** of the collection. -/
def after (h : HeldField) (change : FieldsChange) : HeldField :=
  if h.attached && change.key = h.field.key then
    match change with
    | .set _ => { h with attached := false }
    | .erase _ => { h with attached := false }
    | .add _ value => { h with field := h.field.add value }
  else h

end HeldField

end SigV4
