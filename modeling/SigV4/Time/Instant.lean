/-
  INSTANTS: a date and a time of day, with or without an offset from universal time.

  1. **Order** — two instants are compared by the microseconds that lie before them in universal
     time; one without an offset cannot be compared, so `microseconds?` is partial.
  2. **Universal time** — `toUniversal?` takes the offset off.  It fails exactly when that leaves
     the years 1 to 9999.  An instant without an offset already is in universal time.
  3. **Forms** — `basic` is the form that is signed, `YYYYMMDDTHHMMSSZ` with the year's own number
     of digits; `display` and `describe` are the forms in which messages show an instant.
-/
import SigV4.Time.Calendar

namespace SigV4

/-- A date and time of day; the offset is in seconds ahead of universal time. -/
structure Instant where
  date : Date
  hour : Nat
  minute : Nat
  second : Nat
  microsecond : Nat
  offset : Option Int
deriving DecidableEq, Repr

namespace Instant

/-- The seconds since the start of the calendar, as the instant's own clock shows them. -/
def localSeconds (i : Instant) : Int :=
  (i.date.dayNumber : Int) * 86400 + i.hour * 3600 + i.minute * 60 + i.second

/-- The microseconds since the start of the calendar in universal time, if the offset is known. -/
def microseconds? (i : Instant) : Option Int :=
  i.offset.map fun offset => (i.localSeconds - offset) * 1000000 + i.microsecond

/-- The instant with the given seconds since the start of the calendar, in universal time, if its
year is between 1 and 9999. -/
def ofSeconds? (seconds : Int) (microsecond : Nat) : Option Instant :=
  let days := seconds / 86400
  let rest := (seconds % 86400).toNat
  if 1 ≤ days ∧ days ≤ Date.lastDay then
    some ⟨Date.ofDayNumber days.toNat, rest / 3600, rest / 60 % 60, rest % 60, microsecond, some 0⟩
  else none

/-- The instant in universal time, if its year is between 1 and 9999 there. -/
def toUniversal? (i : Instant) : Option Instant :=
  match i.offset with
  | none => some { i with offset := some 0 }
  | some offset => ofSeconds? (i.localSeconds - offset) i.microsecond

/-! ## Forms -/

/-- The number with at least `width` digits. -/
def padded (width n : Nat) : String :=
  let digits := toString n
  String.ofList (List.replicate (width - digits.length) '0') ++ digits

/-- **The form that is signed.** -/
def basic (i : Instant) : String :=
  toString i.date.year ++ padded 2 i.date.month ++ padded 2 i.date.day ++ "T" ++ padded 2 i.hour
    ++ padded 2 i.minute ++ padded 2 i.second ++ "Z"

/-- An offset as a sign, hours, minutes, and seconds if there are any. -/
def displayOffset (offset : Int) : String :=
  let n := offset.natAbs
  (if offset < 0 then "-" else "+") ++ padded 2 (n / 3600) ++ ":" ++ padded 2 (n / 60 % 60)
    ++ (if n % 60 = 0 then "" else ":" ++ padded 2 (n % 60))

/-- The form with dashes, colons and offset. -/
def display (i : Instant) : String :=
  padded 4 i.date.year ++ "-" ++ padded 2 i.date.month ++ "-" ++ padded 2 i.date.day ++ " "
    ++ padded 2 i.hour ++ ":" ++ padded 2 i.minute ++ ":" ++ padded 2 i.second
    ++ (if i.microsecond = 0 then "" else "." ++ padded 6 i.microsecond)
    ++ (i.offset.map displayOffset).getD ""

/-- An offset by its parts: whole days below and seconds above them. -/
def describeOffset (offset : Int) : String :=
  if offset = 0 then "datetime.timezone.utc"
  else
    let days := offset / 86400
    let seconds := offset % 86400
    "datetime.timezone(datetime.timedelta("
      ++ (if days = 0 then "" else "days=" ++ toString days ++ ", ")
      ++ "seconds=" ++ toString seconds ++ "))"

/-- The form by parts; seconds and microseconds are left out at the end if they are zero. -/
def describe (i : Instant) : String :=
  let parts := [i.date.year, i.date.month, i.date.day, i.hour, i.minute]
    ++ (if i.microsecond ≠ 0 then [i.second, i.microsecond]
        else if i.second ≠ 0 then [i.second] else [])
  "datetime.datetime(" ++ ", ".intercalate (parts.map toString)
    ++ (i.offset.map fun offset => ", tzinfo=" ++ describeOffset offset).getD "" ++ ")"

end Instant

end SigV4
