/-
  The length of a payload BEFORE it is framed.

  A declared length counts, whatever the body is.  Without one the body is asked: bytes and parts are
  counted, and of a buffer or stream that can be sought what lies behind its position is measured.
  A position behind the end makes that negative.  A seek that has to be waited for gives no position, and
  nothing can be reckoned with what it gives.
-/
import SigV4.Payload.Body
import SigV4.Request
import SigV4.Text.Numeral

namespace SigV4.DecodedLength

/-- The length that a field declares. -/
def declared (f : Field) : Except Fault Int :=
  let line := f.line Field.sentDelimiter
  match Text.readInt line with
  | some n => if n < 0 then .error (.lengthNegative n) else .ok n
  | none => .error (.lengthNotWhole (Text.literal line))

/-- The length that the body itself shows. -/
def measured (body : Body) : Outcome Body Int :=
  match body with
  | .absent => ⟨.ok 0, body, []⟩
  | .bytes data => ⟨.ok data.length, body, []⟩
  | .byteArray data => ⟨.ok data.length, body, []⟩
  | .parts items => ⟨.ok items.flatten.length, body, []⟩
  | .buffer b => ⟨.ok ((b.data.length : Int) - b.pos), body, []⟩
  | .stream s =>
    match s.seeking with
    | some .sync => ⟨.ok ((s.data.length : Int) - s.pos), .stream (s.seekEnd.seek s.pos), []⟩
    | some .async => ⟨.error .sourceUnusable, body, []⟩
    | none => ⟨.error .lengthUnknown, body, []⟩
  | _ => ⟨.error .lengthUnknown, body, []⟩

/-- **The length of the payload of a request.** -/
def find (fields : Fields) (body : Body) : Outcome Body Int :=
  if body.isAsync then ⟨.error .chunkedAsyncBody, body, []⟩
  else match fields.get? "Content-Length" with
    | some f => ⟨declared f, body, []⟩
    | none => measured body

end SigV4.DecodedLength
