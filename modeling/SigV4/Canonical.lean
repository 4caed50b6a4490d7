/-
  The CANONICAL REQUEST: the one spelling of a request that is hashed and signed.

  1. **Its text** — method, path, query, one line for each signed field, their names, and the hash of
     the payload.  Every field line ends in a line feed, the last one too.
  2. **The signed fields** — `signedFields`: every field but the excluded ones, by key, with its
     values normalised and joined by commas, sorted by key.  Where no field names the host, the
     address does; a port that goes without saying is left out.
-/
import SigV4.Header.Fields
import SigV4.Text.Order
import SigV4.Url.Address

namespace SigV4

/-- The parts of a request that are signed. -/
structure CanonicalRequest where
  method : String
  path : String
  query : String
  /-- Keys and canonical values, sorted by key. -/
  fields : List (String × String)
  payloadHash : String
deriving DecidableEq, Repr

namespace CanonicalRequest

/-- The names of the signed fields in one line. -/
def signedHeaders (r : CanonicalRequest) : String := ";".intercalate (r.fields.map Prod.fst)

/-- The line of one field. -/
def fieldLine (field : String × String) : String := field.1 ++ ":" ++ field.2 ++ "\n"

/-- The lines of the signed fields. -/
def fieldLines (r : CanonicalRequest) : String := String.join (r.fields.map fieldLine)

/-- **The text of a canonical request.** -/
def text (r : CanonicalRequest) : String :=
  r.method ++ "\n" ++ r.path ++ "\n" ++ r.query ++ "\n" ++ r.fieldLines ++ "\n"
    ++ r.signedHeaders ++ "\n" ++ r.payloadHash

end CanonicalRequest

/-! ## The signed fields -/

/-- The fields that may change on the way and are not signed. -/
def excludedKeys : List String :=
  ["accept", "accept-encoding", "authorization", "connection", "expect", "user-agent",
    "x-amzn-trace-id"]

/-- The port that a scheme goes without saying. -/
def defaultPort? (scheme : String) : Option Int :=
  if scheme = "http" then some 80 else if scheme = "https" then some 443 else none

/-- The host as a field would name it. -/
def hostValue (a : Address) : String :=
  if a.port.isSome ∧ defaultPort? a.scheme = a.port then a.host else a.authority

/-- The canonical value of a field. -/
def canonicalValue (f : Field) : String := ",".intercalate (f.values.map Header.normalize)

/-- The keys and canonical values of the fields that are signed, as they stand. -/
def signable (fields : Fields) : List (String × String) :=
  (fields.toList.filter fun f => f.key ∉ excludedKeys).map fun f => (f.key, canonicalValue f)

/-- The host field, if no field names the host. -/
def impliedHost (fields : Fields) (a : Address) : List (String × String) :=
  if (signable fields).any (·.1 = "host") then [] else [("host", hostValue a)]

/-- **The signed fields of a request,** sorted by key. -/
def signedFields (fields : Fields) (a : Address) : List (String × String) :=
  (signable fields ++ impliedHost fields a).mergeSort fun x y =>
    Text.inOrder x.1.toList y.1.toList

end SigV4
