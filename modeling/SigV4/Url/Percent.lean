/-
  PERCENT-ENCODING.

  A byte that is an ASCII letter, a digit or one of `-._~` is UNRESERVED and stands for itself;
  every other byte is written as an escape, `%` and two upper-case hexadecimal digits.

  1. **Writing** — `encode keep bytes`, where `keep` names further characters that stand for
     themselves.
  2. **Reading** — `toBytes` reads a text that may hold escapes of either letter case.  An escape
     is a `%` with two hexadecimal digits behind it, found from left to right; it stands for its
     byte, and every other character, a lone `%` too, stands for its UTF-8 bytes.
  3. **Texts** — `encodeText` and `decodeText` go through UTF-8.  `decodeText` never fails: bytes
     that are no UTF-8 are read as `U+FFFD`.
-/
import SigV4.Text.Utf8

namespace SigV4.Percent

/-! ## Writing -/

/-- A character that an address may hold as it is. -/
def isUnreserved (c : Char) : Bool :=
  c.isAlphanum || c == '-' || c == '.' || c == '_' || c == '~'

/-- The escape of a byte. -/
def escape (b : UInt8) : List Char :=
  ['%', Hex.upperDigit (b.toNat / 16), Hex.upperDigit (b.toNat % 16)]

/-- The written form of a byte. -/
def encodeByte (keep : Char → Bool) (b : UInt8) : List Char :=
  let c := Char.ofNat b.toNat
  if b < 0x80 && (isUnreserved c || keep c) then [c] else escape b

/-- The written form of some bytes. -/
def encode (keep : Char → Bool) (bs : Bytes) : List Char := bs.flatMap (encodeByte keep)

/-- The written form of a text: only unreserved characters stand for themselves. -/
def encodeText (cs : List Char) : List Char := encode (fun _ => false) (Utf8.encode cs)

/-! ## Reading -/

/-- The byte that three characters stand for if they are an escape. -/
def escaped? (c hi lo : Char) : Option UInt8 :=
  if c = '%' then
    match Hex.value? hi, Hex.value? lo with
    | some h, some l => some (UInt8.ofNat (16 * h + l))
    | _, _ => none
  else none

/-- **The bytes that a text with escapes stands for.** -/
def toBytes : List Char → Bytes
  | c :: hi :: lo :: rest =>
    match escaped? c hi lo with
    | some b => b :: toBytes rest
    | none => String.utf8EncodeChar c ++ toBytes (hi :: lo :: rest)
  | c :: rest => String.utf8EncodeChar c ++ toBytes rest
  | [] => []

/-- The text that a text with escapes stands for. -/
def decodeText (cs : List Char) : List Char := Utf8.decode (toBytes cs)

@[simp] theorem encode_nil (keep : Char → Bool) : encode keep [] = [] := rfl

@[simp] theorem encode_cons (keep : Char → Bool) (b : UInt8) (bs : Bytes) :
    encode keep (b :: bs) = encodeByte keep b ++ encode keep bs := rfl

@[simp] theorem encode_append (keep : Char → Bool) (a b : Bytes) :
    encode keep (a ++ b) = encode keep a ++ encode keep b := List.flatMap_append

end SigV4.Percent
