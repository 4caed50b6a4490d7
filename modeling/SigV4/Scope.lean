/-
  The SCOPE of a signature, and the key that signs within it.

  A signature holds for one day, one region and one service.  The key for a scope is made from the
  secret by four authentication codes in a row, each under the code before it, so that a key of one
  scope tells nothing about the key of another.

  Date, region and service are given as settings.  A scope can be written whatever they are, but a key
  is made of TEXTS only (`key?`).
-/
import SigV4.Digest.Hmac
import SigV4.Fault
import SigV4.Text.Utf8

namespace SigV4

/-- What a signature is bound to, as it is written. -/
structure Scope where
  date : String
  region : String
  service : String
  terminator : String := "aws4_request"
  /-- Whether the date was given as a text. -/
  dateIsText : Bool := true
  /-- Whether region and service were. -/
  namesAreTexts : Bool := true
deriving DecidableEq, Repr

namespace Scope

/-- The scope as it is written into what is signed. -/
def text (s : Scope) : String :=
  s.date ++ "/" ++ s.region ++ "/" ++ s.service ++ "/" ++ s.terminator

/-- **The key that signs within a scope.** -/
def signingKey (s : Scope) (secret : String) : Bytes :=
  let dateKey := Hmac.digest (Utf8.ofString ("AWS4" ++ secret)) (Utf8.ofString s.date)
  let regionKey := Hmac.digest dateKey (Utf8.ofString s.region)
  let serviceKey := Hmac.digest regionKey (Utf8.ofString s.service)
  Hmac.digest serviceKey (Utf8.ofString s.terminator)

/-- Whether all that the key is made of was given as texts. -/
def isSpelled (s : Scope) : Bool := s.dateIsText && s.namesAreTexts

/-- The key, if it can be made. -/
def key? (s : Scope) (secret : String) : Except Fault Bytes :=
  if s.isSpelled then .ok (s.signingKey secret) else .error .notText

end Scope

/-- The signature of a text under a key. -/
def signature (key : Bytes) (text : String) : String := Hmac.hexDigest key (Utf8.ofString text)

@[simp] theorem length_signature (key : Bytes) (text : String) :
    (signature key text).length = 64 := by simp [signature]

end SigV4
