/-
  HMAC over SHA-256: a digest that only the holder of a key can make.

  The key, cut to one block, is mixed with two constants; the inner mix is hashed before the message
  and the outer mix before that digest.  A key longer than a block is replaced by its digest.
-/
import SigV4.Digest.Sha256

namespace SigV4.Hmac

/-- The size in bytes of a block. -/
def blockSize : Nat := 64

/-- The key as exactly one block. -/
def keyBlock (key : Bytes) : Bytes :=
  let short := if key.length ≤ blockSize then key else Sha256.digest key
  short ++ List.replicate (blockSize - short.length) 0

/-- **The authentication code of a message under a key.** -/
def digest (key message : Bytes) : Bytes :=
  let block := keyBlock key
  Sha256.digest (block.map (· ^^^ 0x5C) ++ Sha256.digest (block.map (· ^^^ 0x36) ++ message))

/-- The code in lower-case hexadecimal. -/
def hexDigest (key message : Bytes) : String := String.ofList (Hex.ofBytes (digest key message))

/-- A code has THIRTY-TWO BYTES. -/
@[simp] theorem length_digest (key message : Bytes) : (digest key message).length = 32 := rfl

/-- A code in hexadecimal has SIXTY-FOUR DIGITS. -/
@[simp] theorem length_hexDigest (key message : Bytes) : (hexDigest key message).length = 64 := by
  simp [hexDigest]

end SigV4.Hmac
