/-
  The CONTEXT of a signing: the properties of one call, completed by the signer's configuration and
  checked.

  `Context.resolve` looks at the properties in a fixed order and stops at the first fault: region,
  service, chunk size, lifetime, clock, and last the one combination that makes no sense.  It does not
  ask region, service and date to be TEXTS: any region that counts as set will do, and any date that
  can be cut.  What is no text is found out later, when the request is spelled or the key is made.
-/
import SigV4.Identity
import SigV4.Scope

namespace SigV4

/-- Where a signature is written. -/
inductive SignatureLocation where
  | header
  | query
deriving DecidableEq, Repr

/-- What a signer takes for the properties that a call leaves open. -/
structure Configuration where
  signatureLocation : SignatureLocation := .header
  payloadSigning : Setting := .flag false
  chunkedEncoding : Setting := .flag false
  chunkSize : Setting := .whole 65536
  contentChecksum : Setting := .flag false
  encodePathTwice : Setting := .flag false
  normalizePath : Setting := .flag true
  expires : Setting := .whole 3600

namespace Configuration

/-- The plain configuration: nothing but headers is signed. -/
def plain : Configuration := {}

/-- The configuration for most services: payloads are signed, paths encoded twice. -/
def service : Configuration :=
  { payloadSigning := .flag true, encodePathTwice := .flag true }

/-- The configuration for object storage: paths are taken as they are. -/
def storage : Configuration :=
  { contentChecksum := .flag true, normalizePath := .flag false }

/-- The plain configuration for signatures in the query. -/
def plainQuery : Configuration := { signatureLocation := .query }

/-- The configuration of object storage for signatures in the query. -/
def storageQuery : Configuration :=
  { signatureLocation := .query, normalizePath := .flag false }

end Configuration

/-- What one signing goes by. -/
structure Context where
  scope : Scope
  timestamp : String
  signatureLocation : SignatureLocation
  payloadSigning : Bool
  chunkedEncoding : Bool
  chunkSize : Int
  contentChecksum : Bool
  encodePathTwice : Bool
  normalizePath : Bool
  expires : Int
deriving DecidableEq, Repr

namespace Context

/-- Whether the body is sent in signed chunks, which needs payload signing. -/
def usesChunks (c : Context) : Bool := c.chunkedEncoding && c.payloadSigning

/-- Whether the signature goes into the header. -/
def writesHeaders (c : Context) : Bool := c.signatureLocation == .header

/-! ## Resolving the properties -/

/-- The property that must be there and not be empty. -/
def required (ps : Properties) (name : String) : Except Fault Setting :=
  match ps.get? name with
  | some value =>
    if value.isSet then .ok value else .error (.propertyMissing name ps.names)
  | none => .error (.propertyMissing name ps.names)

/-- The chunk size: a positive whole number. -/
def chunkSizeOf (value : Setting) : Except Fault Int :=
  match value with
  | .whole n => if n < 1 then .error (.chunkSizeInvalid value.describe) else .ok n
  | _ => .error (.chunkSizeInvalid value.describe)

/-- The lifetime: a whole number of seconds up to seven days. -/
def expiresOf (value : Setting) : Except Fault Int :=
  match value with
  | .whole n =>
    if 1 ≤ n ∧ n ≤ Fault.maxExpires then .ok n else .error (.expiresOutOfRange n)
  | _ => .error (.expiresNotWhole value.describe)

/-- An instant as a timestamp. -/
def timestampAt (i : Instant) : Except Fault String :=
  match i.toUniversal? with
  | some u => .ok u.basic
  | none => .error .clockOutOfRange

/-- The timestamp: the date that is given, else what the clock shows, else the current time. -/
def timestampOf (ps : Properties) (now : Instant) : Except Fault Setting :=
  match ps.get? "date" with
  | some date => .ok date
  | none =>
    match ps.get? "signing_clock" with
    | some (.clock (.shows instant)) => (timestampAt instant).map .text
    | some (.clock (.fails typeName message)) => .error (.clockRaised typeName message)
    | some _ => .error .misshapen
    | none => (timestampAt now).map .text

/-- A timestamp, and the day that it begins with. -/
structure Stamp where
  timestamp : Setting
  day : Setting

/-- A timestamp with its day, the first eight characters.  A list has first items as well; what has no
beginning at all is of no use. -/
def Stamp.of (timestamp : Setting) : Except Fault Stamp :=
  match timestamp.first? 8 with
  | some day => .ok ⟨timestamp, day⟩
  | none => .error .misshapen

/-- The timestamp of a call and its day. -/
def stampOf (ps : Properties) (now : Instant) : Except Fault Stamp := timestampOf ps now >>= Stamp.of

/-- Whether a flag is on, by its property or else by the configuration. -/
def flagOf (ps : Properties) (name : String) (otherwise : Setting) : Bool :=
  ((ps.get? name).getD otherwise).isSet

/-- **The context of one call,** or the first fault in its properties. -/
def resolve (config : Configuration) (ps : Properties) (now : Instant) : Except Fault Context := do
  let region ← required ps "region"
  let service ← required ps "service"
  let chunkSize ← chunkSizeOf ((ps.get? "chunk_size").getD config.chunkSize)
  let expires ← expiresOf ((ps.get? "expires").getD config.expires)
  let stamp ← stampOf ps now
  let context : Context := {
    scope := {
      date := stamp.day.display
      region := region.display
      service := service.display
      dateIsText := stamp.day.isText
      namesAreTexts := region.isText && service.isText }
    timestamp := stamp.timestamp.display
    signatureLocation := config.signatureLocation
    payloadSigning := flagOf ps "payload_signing_enabled" config.payloadSigning
    chunkedEncoding := flagOf ps "chunked_encoding_enabled" config.chunkedEncoding
    chunkSize := chunkSize
    contentChecksum := flagOf ps "content_checksum_enabled" config.contentChecksum
    encodePathTwice := flagOf ps "uri_encode_path" config.encodePathTwice
    normalizePath := flagOf ps "normalize_path" config.normalizePath
    expires := expires }
  if context.usesChunks && !context.writesHeaders then .error .chunkedInQuery else .ok context

end Context

end SigV4
