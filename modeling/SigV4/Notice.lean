/-
  NOTICES: what signing tells about itself while it works.

  A notice is either a line of the log or a warning; none of them holds a secret.
-/

namespace SigV4

/-- Something that happened on the way. -/
inductive Notice where
  /-- The request stays unsigned, because its identity is anonymous. -/
  | anonymousSkipped
  /-- The text that is signed. -/
  | stringToSign (text : String)
  /-- The names of the header fields that are signed. -/
  | signedHeaders (names : String)
  /-- The chunk with this number, of this size, has been signed. -/
  | chunkSigned (number size : Nat)
  /-- The chunk that ends the payload has been signed, after this many in all. -/
  | terminalSigned (count : Nat)
  /-- The whole body had to be read to be signed. -/
  | payloadHashed
deriving DecidableEq, Repr

namespace Notice

/-- The line that a notice leaves in the log. -/
def logLine? : Notice → Option String
  | anonymousSkipped => some "Skipping SigV4 signing for anonymous identity."
  | stringToSign text => some ("String to sign:\n" ++ text)
  | signedHeaders names => some ("Signed headers: " ++ names)
  | chunkSigned number size => some <|
    "Signed chunk " ++ toString number ++ " of " ++ toString size ++ " bytes."
  | terminalSigned count => some <|
    "Signed terminal chunk after " ++ toString count ++ " chunks."
  | payloadHashed => none

/-- The warning that a notice gives to the caller. -/
def warning? : Notice → Option String
  | payloadHashed => some <|
    "Payload signing is enabled. This may result in decreased performance for large request bodies."
  | _ => none

end Notice

end SigV4
