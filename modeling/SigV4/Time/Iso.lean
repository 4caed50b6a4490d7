/-
  Reading instants from their ISO 8601 form: `YYYY-MM-DD`, a separator, `HH:MM[:SS[.f…]]`, and an
  offset `Z` or `±HH:MM[:SS]`.

  What may be missing is the time, its seconds, their fraction, and the offset; digits of the
  fraction beyond the sixth are dropped.
-/
import SigV4.Time.Instant

namespace SigV4.Iso

/-- The number that `width` ASCII digits write. -/
def digits (width : Nat) (cs : List Char) : Option (Nat × List Char) :=
  let run := cs.take width
  if run.length = width ∧ run.all Char.isDigit then
    some (run.foldl (fun n c => 10 * n + (c.toNat - 48)) 0, cs.drop width)
  else none

/-- Two digits behind a mark. -/
def marked (mark : Char) (cs : List Char) : Option (Nat × List Char) :=
  match cs with
  | c :: rest => if c = mark then digits 2 rest else none
  | [] => none

/-- Two digits behind a mark, or zero if the mark does not follow. -/
def optionallyMarked (mark : Char) (cs : List Char) : Option (Nat × List Char) :=
  if cs.head? = some mark then marked mark cs else some (0, cs)

/-- The date at the start of a text. -/
def date (cs : List Char) : Option (Date × List Char) := do
  let (year, cs) ← digits 4 cs
  let (month, cs) ← marked '-' cs
  let (day, cs) ← marked '-' cs
  if 1 ≤ year ∧ 1 ≤ month ∧ month ≤ 12 ∧ 1 ≤ day ∧ day ≤ Date.daysInMonth year month then
    some (⟨year, month, day⟩, cs)
  else none

/-- The microseconds of a fraction, or zero if there is none. -/
def fraction (cs : List Char) : Option (Nat × List Char) :=
  match cs with
  | '.' :: rest =>
    let run := rest.takeWhile Char.isDigit
    if run.isEmpty then none
    else
      let six := (run ++ List.replicate 6 '0').take 6
      some (six.foldl (fun n c => 10 * n + (c.toNat - 48)) 0, rest.dropWhile Char.isDigit)
  | _ => some (0, cs)

/-- The offset that ends a text, in seconds. -/
def offset (cs : List Char) : Option (Option Int) := do
  match cs with
  | [] => some none
  | ['Z'] => some (some 0)
  | sign :: rest =>
    let (hours, rest) ← digits 2 rest
    let (minutes, rest) ← marked ':' rest
    let (seconds, rest) ← optionallyMarked ':' rest
    let total : Int := hours * 3600 + minutes * 60 + seconds
    if !rest.isEmpty then none
    else if sign = '+' then some (some total)
    else if sign = '-' then some (some (-total))
    else none

/-- **The instant that a text writes.** -/
def instant? (text : String) : Option Instant := do
  let (date, rest) ← date text.toList
  match rest with
  | [] => some ⟨date, 0, 0, 0, 0, none⟩
  | _ :: rest =>
    let (hour, rest) ← digits 2 rest
    let (minute, rest) ← marked ':' rest
    let (second, rest) ← optionallyMarked ':' rest
    let (microsecond, rest) ← fraction rest
    let offset ← offset rest
    if hour ≤ 23 ∧ minute ≤ 59 ∧ second ≤ 59 then
      some ⟨date, hour, minute, second, microsecond, offset⟩
    else none

end SigV4.Iso
