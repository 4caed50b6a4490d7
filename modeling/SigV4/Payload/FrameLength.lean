/-
  How long a FRAMED PAYLOAD is.

  A chunk of `n` bytes is framed as its length in hexadecimal, `;chunk-signature=`, sixty-four digits,
  a line end, the bytes, and a line end.  The payload is cut into chunks of one size, the last may be
  shorter, and an empty chunk ends it; so its length on the wire can be told before it is read.
-/
import SigV4.Bytes
import SigV4.Fault

namespace SigV4.Frame

/-- What stands between the length of a chunk and its signature. -/
def mark : List Char := ";chunk-signature=".toList

/-- The end of a line. -/
def lineEnd : Bytes := [13, 10]

/-- How many digits a signature has. -/
def signatureLength : Nat := 64

/-- The length of the frame of a chunk of `n` bytes. -/
def length (n : Int) : Int :=
  (Hex.ofInt n).length + mark.length + signatureLength + lineEnd.length + n + lineEnd.length

/-- **The length on the wire of a payload of `declared` bytes** in chunks of `chunkSize`. -/
def totalLength (declared chunkSize : Int) : Except Fault Int :=
  if chunkSize = 0 then .error .chunkSizeZero
  else
    let rest := Int.fmod declared chunkSize
    .ok (Int.fdiv declared chunkSize * length chunkSize + (if rest = 0 then 0 else length rest)
      + length 0)

end SigV4.Frame
