/-
  SETTINGS: the values that a caller gives under the names of signing properties.

  Callers are not held to types: a flag may be any value and counts by whether it is SET, a chunk
  size may be a text and is then named in the refusal.  So a setting is a value of any shape, with
  two views: `isSet`, which flags go by, and `describe`, the form in which a message shows it.

  A clock is called for the current instant.  It is the caller's own and may fail with an error of its
  own, which nobody can foretell.

  `Properties` holds settings under names, each name once, in the order in which the names were
  first given: that order shows when a property is missed.
-/
import SigV4.Text.Literal
import SigV4.Time.Instant

namespace SigV4

/-- A clock, by what comes of calling it. -/
inductive Clock where
  | shows (instant : Instant)
  /-- The clock raises an error of some type. -/
  | fails (typeName message : String)
deriving Inhabited

instance : Coe Instant Clock := ⟨Clock.shows⟩

/-- A value of a signing property. -/
inductive Setting where
  | null
  | flag (on : Bool)
  | whole (n : Int)
  /-- A number with a fraction or an exponent, by its text. -/
  | decimal (digits : String)
  | text (s : String)
  | list (items : List Setting)
  | record (entries : List (String × Setting))
  | clock (c : Clock)
deriving Inhabited

namespace Setting

/-- **Whether a flag with this value is on:** what is absent, zero or empty is not. -/
def isSet : Setting → Bool
  | null => false
  | flag on => on
  | whole n => n ≠ 0
  | decimal digits => digits ≠ "0.0" && digits ≠ "-0.0"
  | text s => !s.isEmpty
  | list items => !items.isEmpty
  | record entries => !entries.isEmpty
  | clock _ => true

mutual

/-- The form in which a message shows a setting. -/
def describe : Setting → String
  | null => "None"
  | flag on => if on then "True" else "False"
  | whole n => toString n
  | decimal digits => digits
  | text s => Text.literal s
  | list items => Text.bracketed (describeAll items)
  | record entries => "\x7b" ++ ", ".intercalate (describeEntries entries) ++ "\x7d"
  | clock _ => "clock"

/-- The forms of several settings. -/
def describeAll : List Setting → List String
  | [] => []
  | x :: xs => describe x :: describeAll xs

/-- The forms of several named settings. -/
def describeEntries : List (String × Setting) → List String
  | [] => []
  | (name, x) :: rest => (Text.literal name ++ ": " ++ describe x) :: describeEntries rest

end

/-- The setting within a text: a text as it is, anything else as a message shows it. -/
def display : Setting → String
  | text s => s
  | x => x.describe

/-- Whether the setting is a text. -/
def isText : Setting → Bool
  | text _ => true
  | _ => false

/-- The first of what a setting is made of, where it is a row: characters of a text, items of a list. -/
def first? (n : Nat) : Setting → Option Setting
  | text s => some (text (String.ofList (s.toList.take n)))
  | list items => some (list (items.take n))
  | _ => none

end Setting

/-- Settings under names. -/
structure Properties where
  entries : List (String × Setting)

namespace Properties

/-- The setting under a name. -/
def get? (ps : Properties) (name : String) : Option Setting := ps.entries.lookup name

/-- The names in order. -/
def names (ps : Properties) : List String := ps.entries.map Prod.fst

/-- The properties with a setting under a name: in the old one's place, or at the end. -/
def insert (ps : Properties) (name : String) (value : Setting) : Properties :=
  if name ∈ ps.names then
    ⟨ps.entries.map fun e => if e.1 = name then (name, value) else e⟩
  else ⟨ps.entries ++ [(name, value)]⟩

/-- The properties that a list of names and settings makes; the last setting of a name counts. -/
def ofList (entries : List (String × Setting)) : Properties :=
  entries.foldl (fun ps e => ps.insert e.1 e.2) ⟨[]⟩

end Properties

end SigV4
