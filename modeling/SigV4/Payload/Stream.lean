/-
  STREAMS: sources outside of the program, which may be short of bytes and may fail.

  A read delivers at most as much as was asked for, and at most the stream's own limit for the read
  of that number.  A read may also fail; which ones do, is again a matter of their number, and a read
  that fails consumes nothing.  A stream keeps a record of the reads that were tried and of the
  other calls made on it, the latest FIRST.

  Reading, seeking and closing may each be asynchronous, and seeking and closing may be missing.
-/
import SigV4.Payload.Buffer

namespace SigV4

/-- Whether the caller waits for an operation. -/
inductive Access where
  | sync
  | async
deriving DecidableEq, Repr

/-- A call other than a read. -/
inductive StreamCall where
  | seek (offset : Int) (whence : Nat)
  | close (access : Access)
deriving DecidableEq, Repr

/-- A source of bytes that is read through calls. -/
structure Stream where
  access : Access
  seeking : Option Access := none
  closing : Option Access := none
  data : Bytes
  pos : Nat := 0
  /-- The most that the read of a number delivers. -/
  limit : Nat → Option Nat := fun _ => none
  /-- Whether the read of a number fails. -/
  fails : Nat → Bool := fun _ => false
  /-- The sizes that were asked for, the latest first. -/
  reads : List (Option Int) := []
  /-- The other calls, the latest first. -/
  calls : List StreamCall := []

namespace Stream

/-- The bytes that have not been read. -/
def rest (s : Stream) : Bytes := s.data.drop s.pos

/-- The number of the next read. -/
def readNumber (s : Stream) : Nat := s.reads.length

/-- The bytes that a read of some size delivers. -/
def portion (s : Stream) (size : Option Int) : Bytes :=
  match s.limit s.readNumber with
  | some n => (Buffer.portion size s.rest).take n
  | none => Buffer.portion size s.rest

/-- The stream with a read on its record. -/
def noteRead (s : Stream) (size : Option Int) : Stream := { s with reads := size :: s.reads }

/-- The stream behind `n` more of its bytes. -/
def advance (s : Stream) (n : Nat) : Stream := { s with pos := s.pos + n }

/-- **Reads** so many bytes, or fails. -/
def read (s : Stream) (size : Option Int) : Except Fault Bytes × Stream :=
  if s.fails s.readNumber then (.error .connectionReset, s.noteRead size)
  else (.ok (s.portion size), (s.noteRead size).advance (s.portion size).length)

/-- Sets the position, by a call on record. -/
def seek (s : Stream) (pos : Nat) : Stream :=
  { s with pos := pos, calls := .seek pos 0 :: s.calls }

/-- Sets the position behind the last byte, by a call on record. -/
def seekEnd (s : Stream) : Stream :=
  { s with pos := s.data.length, calls := .seek 0 2 :: s.calls }

/-- Closes the stream, by a call on record, if it can be closed. -/
def close (s : Stream) : Stream :=
  match s.closing with
  | some access => { s with calls := .close access :: s.calls }
  | none => s

theorem length_portion_le (s : Stream) (size : Option Int) :
    (s.portion size).length ≤ s.data.length - s.pos := by
  have hp := Buffer.length_portion_le size s.rest
  have hr : s.rest.length = s.data.length - s.pos := by simp [rest]
  unfold portion
  split
  · rw [List.length_take]; omega
  · omega

end Stream

end SigV4
