/-
  REQUESTS, as they are signed and sent.
-/
import SigV4.Header.Fields
import SigV4.Payload.Body
import SigV4.Url.Address

namespace SigV4

/-- A request. -/
structure Request where
  destination : Address
  method : String
  fields : Fields
  body : Body := .absent

namespace Request

/-- The request for a reader of messages. -/
def describe (r : Request) : String :=
  "AWSRequest(method=" ++ Text.literal r.method ++ ", destination="
    ++ Text.literal r.destination.text ++ ", fields=" ++ r.fields.describe ++ ")"

/-- The request with a field in the place of the one with its key, or at the end. -/
def setField (r : Request) (name : String) (values : List String) : Request :=
  { r with fields := r.fields.set ⟨name, values⟩ }

/-- The request with bytes that nobody can change any more. -/
def freezeBytes (r : Request) : Request :=
  match r.body with
  | .byteArray data => { r with body := .bytes data }
  | _ => r

end Request

end SigV4
