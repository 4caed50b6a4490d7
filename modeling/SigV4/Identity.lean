/-
  IDENTITIES: who signs.

  1. **Kinds** — a key pair that may be bound to a session and may expire; the anonymous identity;
     an object from elsewhere, which is an identity if it has all six attributes; anything else.
  2. **Standing** — `Identity.standing` looks at an identity at a moment and finds what signing
     needs to know of it.  It fails for an expiration that cannot be compared with that moment, and
     it is `none` for what is no identity.

  Keys and tokens are texts of Unicode SCALAR VALUES.  A text with a lone surrogate in it has no bytes;
  there are no such texts here, so every secret can be encoded and becomes a key.
-/
import SigV4.Fault
import SigV4.Setting

namespace SigV4

/-- A key pair, and the token of the session to which it may be bound: texts of Unicode scalar values, so
that each of them has bytes. -/
structure Credentials where
  accessKeyId : String
  secretAccessKey : String
  sessionToken : Option String := none
deriving DecidableEq, Repr

/-- An object from elsewhere, by the attributes that it has. -/
structure ForeignIdentity where
  typeName : String
  accessKeyId : Option String
  secretAccessKey : Option String
  sessionToken : Option (Option String)
  expiration : Option (Option Instant)
  isExpired : Option Setting
  isAnonymous : Option Setting

/-- What a caller may give as an identity. -/
inductive Identity where
  | keys (credentials : Credentials) (expiration : Option Instant)
  | anonymous
  | foreign (object : ForeignIdentity)
  | other (typeName : String)

/-- What signing needs to know of an identity. -/
structure Standing where
  credentials : Credentials
  expiration : Option Instant
  isExpired : Setting
  isAnonymous : Setting

namespace Identity

/-- Whether an expiration has come, if the two moments can be compared. -/
def hasExpired? (now : Instant) : Option Instant → Option Bool
  | none => some false
  | some expiration =>
    match now.microseconds?, expiration.microseconds? with
    | some n, some e => some (e ≤ n)
    | _, _ => none

/-- **What an identity is worth at a moment:** `none` for what is no identity. -/
def standing (now : Instant) : Identity → Except Fault (Option Standing)
  | keys credentials expiration =>
    match hasExpired? now expiration with
    | some isOver => .ok (some ⟨credentials, expiration, .flag isOver, .flag false⟩)
    | none => .error .expirationWithoutOffset
  | anonymous => .ok (some ⟨⟨"", "", none⟩, none, .flag false, .flag true⟩)
  | foreign o =>
    match o.accessKeyId, o.secretAccessKey, o.sessionToken, o.expiration, o.isExpired,
        o.isAnonymous with
    | some id, some secret, some token, some expiration, some isOver, some unsigned =>
      .ok (some ⟨⟨id, secret, token⟩, expiration, isOver, unsigned⟩)
    | _, _, _, _, _, _ => .ok none
  | other _ => .ok none

/-- The type that a refusal names. -/
def typeName : Identity → String
  | keys _ _ => "<class 'AWSCredentialIdentity'>"
  | anonymous => "<class 'AnonymousAWSCredentialIdentity'>"
  | foreign o => o.typeName
  | other name => name

/-- An expiration within a message. -/
def describeExpiration (show? : Instant → String) (expiration : Option Instant) : String :=
  (expiration.map show?).getD "None"

/-- The identity for a reader of messages; secret and token are not shown. -/
def describe : Identity → String
  | keys credentials expiration =>
    "AWSCredentialIdentity(access_key_id=" ++ Text.literal credentials.accessKeyId
      ++ ", expiration=" ++ describeExpiration Instant.describe expiration ++ ")"
  | anonymous =>
    "AnonymousAWSCredentialIdentity(access_key_id='', session_token=None, expiration=None)"
  | i => i.typeName

end Identity

end SigV4
