/-
  SIGNING a request.

  1. **Before the hash** — `prepare` writes what has to be signed: the timestamp, the session token and
     the lengths into the header, or all parameters but the signature into the query.
  2. **The signature** — `canonicalRequest` spells the request, `stringToSign` puts the spelling's
     hash under timestamp and scope, and the scope's key signs that.
  3. **After it** — `complete` writes the signature, and in chunked mode the body is replaced by its
     framed form, whose first chunk is signed together with the request's signature.  What had to be a
     text and is none shows only here: a date in a field when the fields are spelled, anything else when
     the key is made.
  4. **Refusals** — `sign` looks at the identity first and at the properties next; neither costs the
     body anything.  What the body was read is visible in the outcome's state even if signing fails.
-/
import SigV4.Canonical
import SigV4.Signing.DecodedLength
import SigV4.Signing.PayloadHash
import SigV4.Url.Path

namespace SigV4

/-- A signer: how it reads bodies, and what it takes for open properties. -/
structure Signer where
  access : Access := .sync
  config : Configuration := {}

/-- What signing makes of a request. -/
inductive Signed where
  /-- The request needs no signature and is sent as it is. -/
  | unchanged
  | signed (request : Request)

namespace Signing

/-- The name of the method by which requests are signed. -/
def algorithm : String := "AWS4-HMAC-SHA256"

/-- The name under which a body in signed chunks is sent. -/
def chunkedEncoding : String := "aws-chunked"

/-! ## Before the hash -/

/-- The key and the scope that a signature names. -/
def credential (context : Context) (credentials : Credentials) : String :=
  credentials.accessKeyId ++ "/" ++ context.scope.text

/-- The parameters of a signature in the query, but for the signature. -/
def queryParams (context : Context) (credentials : Credentials) (request : Request) :
    List (String × String) :=
  [("X-Amz-Algorithm", algorithm),
    ("X-Amz-Credential", credential context credentials),
    ("X-Amz-Date", context.timestamp),
    ("X-Amz-Expires", toString context.expires),
    ("X-Amz-SignedHeaders",
      ";".intercalate ((signedFields request.fields request.destination).map Prod.fst))]
  ++ match credentials.sessionToken with
    | some token => [("X-Amz-Security-Token", token)]
    | none => []

/-- The fields with timestamp and session token; an old token does not stay. -/
def stampFields (context : Context) (credentials : Credentials) (fields : Fields) : Fields :=
  let stamped := fields.set ⟨"X-Amz-Date", [context.timestamp]⟩
  match credentials.sessionToken with
  | some token => stamped.set ⟨"X-Amz-Security-Token", [token]⟩
  | none => stamped.erase "X-Amz-Security-Token"

/-- The encodings of a body in chunks, those of the plain body behind the chunks'. -/
def chunkedEncodings (fields : Fields) : List String :=
  chunkedEncoding :: match fields.get? "Content-Encoding" with
    | some f => f.values.filter (· ≠ chunkedEncoding)
    | none => []

/-- The fields that announce a payload of a length in chunks. -/
def announceChunks (chunkSize decoded : Int) (fields : Fields) : Except Fault Fields := do
  let encoded := fields.set ⟨"Content-Encoding", chunkedEncodings fields⟩
  let total ← Frame.totalLength decoded chunkSize
  match Text.showInt? total with
  | some length =>
    return (encoded.set ⟨"Content-Length", [length]⟩).set
      ⟨"X-Amz-Decoded-Content-Length", [toString decoded]⟩
  | none => throw .numeralTooLong

/-- **The request with everything that has to be signed.** -/
def prepare (context : Context) (credentials : Credentials) (decoded : Option Int)
    (request : Request) : Except Fault Request :=
  if !context.writesHeaders then
    .ok { request with
      destination := request.destination.withParams (queryParams context credentials request) }
  else
    let stamped := stampFields context credentials request.fields
    match decoded with
    | some length =>
      (announceChunks context.chunkSize length stamped).map fun fields =>
        { request with fields := fields }
    | none => .ok { request with fields := stamped }

/-- The request with the hash of its payload in the header, where one is asked for. -/
def writeHash (context : Context) (hash : String) (request : Request) : Request :=
  if context.writesHeaders && (context.contentChecksum || context.usesChunks) then
    request.setField "X-Amz-Content-SHA256" [hash]
  else request

/-! ## The signature -/

/-- **The canonical form of a request.** -/
def canonicalRequest (context : Context) (hash : String) (request : Request) : CanonicalRequest where
  method := Text.upper request.method
  path := Path.canonicalPath request.destination.path context.encodePathTwice context.normalizePath
  query := Query.canonicalQuery request.destination.query
  fields := signedFields request.fields request.destination
  payloadHash := hash

/-- **The text that is signed** for a canonical request. -/
def stringToSign (context : Context) (canonical : String) : String :=
  algorithm ++ "\n" ++ context.timestamp ++ "\n" ++ context.scope.text ++ "\n"
    ++ Sha256.hexDigest (Utf8.ofString canonical)

/-! ## After it -/

/-- The field that carries a signature. -/
def authorizationField (credential : String) (names : List String) (signature : String) : Field :=
  ⟨"Authorization",
    [algorithm ++ " Credential=" ++ credential ++ ", SignedHeaders=" ++ ";".intercalate names
      ++ ", Signature=" ++ signature]⟩

/-- **The request with its signature.** -/
def complete (context : Context) (credentials : Credentials) (names : List String)
    (signature : String) (request : Request) : Request :=
  if context.writesHeaders then
    { request with
      fields := request.fields.set
        (authorizationField (credential context credentials) names signature) }
  else
    { request with destination := request.destination.withParams [("X-Amz-Signature", signature)] }

/-- The signer for the chunks of a request with a signature. -/
def chunkSigner (context : Context) (key : Bytes) (signature : String) : ChunkSigner where
  key := key
  scope := context.scope.text
  timestamp := context.timestamp
  previous := signature

/-- The request whose body is sent in chunks, if a length was found for it. -/
def frameBody (context : Context) (key : Bytes) (signature : String) (decoded : Option Int)
    (request : Request) : Except Fault Request :=
  match decoded with
  | some length =>
    (request.body.frame (chunkSigner context key signature) context.chunkSize length).map
      fun body => { request with body := body }
  | none => .ok request

/-- The last steps under a key. -/
def conclude (context : Context) (credentials : Credentials) (decoded : Option Int)
    (hash : String) (key : Bytes) (request : Request) : Except Fault Request × List Notice :=
  let hashed := writeHash context hash request
  let canonical := canonicalRequest context hash hashed
  let text := stringToSign context canonical.text
  let sig := signature key text
  let completed := complete context credentials (canonical.fields.map Prod.fst) sig hashed
  (frameBody context key sig decoded completed,
    [.stringToSign text, .signedHeaders canonical.signedHeaders])

/-- The last steps, once the hash of the payload is known. -/
def finish (context : Context) (credentials : Credentials) (decoded : Option Int)
    (hash : String) (request : Request) : Except Fault Request × List Notice :=
  if context.writesHeaders && !context.scope.dateIsText then (.error .notText, [])
  else match context.scope.key? credentials.secretAccessKey with
    | .error e =>
      let canonical := canonicalRequest context hash (writeHash context hash request)
      (.error e, [.stringToSign (stringToSign context canonical.text)])
    | .ok key => conclude context credentials decoded hash key request

/-- The length of the payload, where it has to be known. -/
def lengthFor (context : Context) (request : Request) : Outcome Body (Option Int) :=
  if context.usesChunks then (DecodedLength.find request.fields request.body).map some
  else ⟨.ok none, request.body, []⟩

/-- **Signs a request** in a context.  The state of the outcome is the body that was given. -/
def signIn (access : Access) (context : Context) (credentials : Credentials) (request : Request) :
    Outcome Body Signed :=
  (lengthFor context request).andThen fun decoded body =>
    match prepare context credentials decoded { request with body := body } with
    | .error e => ⟨.error e, body, []⟩
    | .ok prepared =>
      let o := PayloadHash.compute access context prepared.body
      match o.result with
      | .error e => ⟨.error e, o.next.given, o.notices⟩
      | .ok hash =>
        let (result, notices) :=
          finish context credentials decoded hash
            ({ prepared with body := o.next.sent } : Request).freezeBytes
        ⟨result.map Signed.signed, o.next.given, o.notices ++ notices⟩

end Signing

namespace Signer

open Signing

/-- A refusal that costs the body nothing. -/
def refuse (fault : Fault) (request : Request) : Outcome Body Signed :=
  ⟨.error fault, request.body, []⟩

/-- Signs for an identity that is known to be one. -/
def signAs (s : Signer) (standing : Standing) (now : Instant) (ps : Properties)
    (request : Request) : Outcome Body Signed :=
  if standing.isAnonymous.isSet then ⟨.ok .unchanged, request.body, [.anonymousSkipped]⟩
  else if standing.isExpired.isSet then
    refuse (.expired (Identity.describeExpiration Instant.display standing.expiration)) request
  else match Context.resolve s.config ps now with
    | .error e => refuse e request
    | .ok context =>
      if s.access = .async ∧ context.usesChunks then refuse .chunkedByAsyncSigner request
      else signIn s.access context standing.credentials request

/-- **Signs a request** for an identity, at a moment. -/
def sign (s : Signer) (now : Instant) (ps : Properties) (identity : Identity)
    (request : Request) : Outcome Body Signed :=
  match identity.standing now with
  | .error e => refuse e request
  | .ok none => refuse (.notAnIdentity identity.typeName) request
  | .ok (some standing) => s.signAs standing now ps request

/-- The canonical form of a request as it stands, nothing added to it. -/
def canonicalText (s : Signer) (now : Instant) (ps : Properties) (request : Request) :
    Outcome Exchange String :=
  match Context.resolve s.config ps now with
  | .error e => ⟨.error e, ⟨request.body, none⟩, []⟩
  | .ok context =>
    (PayloadHash.compute s.access context request.body).andThen fun hash bodies =>
      ⟨.ok (canonicalRequest context hash request).text, bodies, []⟩

/-- The text that is signed for a canonical request; only properties with a date can tell it. -/
def stringToSign (s : Signer) (now : Instant) (ps : Properties) (canonical : String) :
    Except Fault String :=
  if (ps.get? "date").isNone then .error .dateMissing
  else (Context.resolve s.config ps now).map fun context => Signing.stringToSign context canonical

/-- The key that signs within the scope of some properties. -/
def signingKey (s : Signer) (now : Instant) (ps : Properties) (secret : String) :
    Except Fault Bytes :=
  Context.resolve s.config ps now >>= fun context => context.scope.key? secret

end Signer

end SigV4
