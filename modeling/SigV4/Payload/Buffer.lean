/-
  BUFFERS: bytes in memory that are read from a position onwards.

  The position may lie behind the last byte; nothing can be read there.  Reading moves it by what was
  read, seeking sets it.  A buffer is either the caller's own, whose position the caller can see, or
  was made within the library.
-/
import SigV4.Bytes
import SigV4.Fault

namespace SigV4

/-- Who made a thing that is read. -/
inductive Origin where
  | caller
  | library
deriving DecidableEq, Repr

/-- Bytes in memory and the position at which they are read. -/
structure Buffer where
  origin : Origin := .caller
  data : Bytes
  pos : Nat := 0
  closed : Bool := false
deriving DecidableEq, Repr

namespace Buffer

/-- A buffer of the library's own over some bytes. -/
def ofBytes (data : Bytes) : Buffer := { origin := .library, data := data }

/-- Whether a size can be asked for at all: it has to fit into a machine word. -/
def isCountable (size : Option Int) : Bool :=
  match size with
  | some n => -9223372036854775808 ≤ n && n ≤ 9223372036854775807
  | none => true

/-- The bytes that have not been read. -/
def rest (b : Buffer) : Bytes := b.data.drop b.pos

/-- The bytes that a read of some size delivers; without a size, or with a negative one, all. -/
def portion (size : Option Int) (rest : Bytes) : Bytes :=
  match size with
  | some n => if n < 0 then rest else rest.take n.toNat
  | none => rest

/-- **Reads** so many bytes. -/
def read (b : Buffer) (size : Option Int) : Except Fault (Bytes × Buffer) :=
  if b.closed then .error .readerClosed
  else if !isCountable size then .error .pastWord
  else
    let bs := portion size b.rest
    .ok (bs, { b with pos := b.pos + bs.length })

/-- Sets the position. -/
def seek (b : Buffer) (pos : Nat) : Buffer := { b with pos := pos }

/-- Ends the use of the buffer. -/
def close (b : Buffer) : Buffer := { b with closed := true }

theorem length_portion_le (size : Option Int) (rest : Bytes) :
    (portion size rest).length ≤ rest.length := by
  unfold portion
  split
  · split
    · exact Nat.le_refl _
    · rw [List.length_take]; omega
  · exact Nat.le_refl _

@[simp] theorem length_rest (b : Buffer) : b.rest.length = b.data.length - b.pos := by
  simp [rest]

end Buffer

end SigV4
