/-
  FAULTS: everything that can keep a request from being signed or a body from being read.

  A fault is a cause, one constructor for each, with what its message has to name.  `Fault.message`
  gives the wording; the faults of a value that is simply of no use in its place have none.

  Two causes come in several KINDS that read alike from outside: what is of no use in its place, and what
  cannot be counted.  The kind is an argument that need not be written where a fault is only looked at.
-/

namespace SigV4

/-- Why a property is of no use. -/
inductive Misuse where
  /-- Its value is of another shape than its place asks for. -/
  | shape
  /-- Its value is no text.  That shows late: when it is spelled, or when the key is made of it. -/
  | notText
  /-- It is a clock, and raises an error. -/
  | raised (typeName message : String)
deriving DecidableEq, Repr

/-- What cannot be counted. -/
inductive Uncountable where
  /-- A size that does not fit into a machine word. -/
  | size
  /-- The bytes of a source without an end.  Whoever asks for all of them WAITS FOR EVER: no answer is
  given, and this fault stands where it would be. -/
  | endless
deriving DecidableEq, Repr

/-- A cause of failure. -/
inductive Fault where
  /-- The expiration has no offset, so it cannot be compared with the current time. -/
  | expirationWithoutOffset
  /-- What was given as an identity is none. -/
  | notAnIdentity (typeName : String)
  /-- The identity has expired. -/
  | expired (when : String)
  /-- A property that is always needed is missing or empty. -/
  | propertyMissing (name : String) (found : List String)
  /-- The chunk size is not a positive whole number. -/
  | chunkSizeInvalid (shown : String)
  /-- The lifetime is not a whole number. -/
  | expiresNotWhole (shown : String)
  /-- The lifetime is not within its bounds. -/
  | expiresOutOfRange (seconds : Int)
  /-- The instant leaves the calendar in universal time. -/
  | clockOutOfRange
  /-- A property holds a value that is of no use in its place. -/
  | propertyUnusable {misuse : Misuse}
  /-- Only with a date can a string to sign be given on its own. -/
  | dateMissing
  /-- Chunks cannot be announced in a query. -/
  | chunkedInQuery
  /-- Chunks cannot be read from an asynchronous body. -/
  | chunkedByAsyncSigner
  /-- An asynchronous body was to be sent in chunks. -/
  | chunkedAsyncBody
  /-- The declared length is no whole number. -/
  | lengthNotWhole (line : String)
  /-- The declared length is negative. -/
  | lengthNegative (length : Int)
  /-- The length of the body is not known. -/
  | lengthUnknown
  /-- A number has more digits than may be written. -/
  | numeralTooLong
  /-- An asynchronous body was to be hashed synchronously. -/
  | asyncBody
  /-- A synchronous body was to be hashed asynchronously. -/
  | syncBody
  /-- The body is not something that can be read. -/
  | bodyUnreadable (typeName : String)
  /-- A source cannot deliver bytes in the way it is asked to. -/
  | sourceUnusable
  /-- A source was asked for more bytes than can be counted. -/
  | sizeTooLarge {what : Uncountable}
  /-- The source's connection broke. -/
  | connectionReset
  /-- The reader has been closed. -/
  | readerClosed
  /-- The chunk that ends the payload has been signed. -/
  | chunkAfterTerminal
  /-- The payload ended before its declared length. -/
  | payloadTooShort (declared : Int) (read : Nat)
  /-- The payload went on after its declared length. -/
  | payloadTooLong (declared : Int) (read : Nat)
  /-- A chunk size of zero divides no length. -/
  | chunkSizeZero
  /-- There is no field under the name. -/
  | noSuchField
deriving DecidableEq, Repr

namespace Fault

/-- A value of another shape than its place asks for. -/
def misshapen : Fault := @propertyUnusable .shape

/-- A value that had to be a text when the request was spelled or the key was made. -/
def notText : Fault := @propertyUnusable .notText

/-- The error of a clock. -/
def clockRaised (typeName message : String) : Fault := @propertyUnusable (.raised typeName message)

/-- A size that does not fit into a machine word. -/
def pastWord : Fault := @sizeTooLarge .size

/-- Reading that never comes to an end. -/
def endless : Fault := @sizeTooLarge .endless

/-- The longest lifetime of a signature in a query, in seconds: seven days. -/
def maxExpires : Int := 604800

/-- How the message on a payload of another length begins. -/
def expectedPayload (declared : Int) : String :=
  "Expected a payload of " ++ toString declared ++ " bytes for aws-chunked encoding, but read "

/-- The names of the properties that were found, in one text.  Where that text is empty it is `none`:
without any name, and with the empty name alone. -/
def listing (found : List String) : String :=
  let names := ", ".intercalate found
  if names.isEmpty then "none" else names

/-- **The message of a fault,** if it has one. -/
def message : Fault → Option String
  | expirationWithoutOffset => none
  | notAnIdentity typeName => some <|
    "Received unexpected value for identity parameter. Expected AWSCredentialIdentity but received "
      ++ typeName ++ "."
  | expired time => some <|
    "Provided identity expired at " ++ time
      ++ ". Please refresh the credentials or update the expiration parameter."
  | propertyMissing name found => some <|
    "The signing property '" ++ name ++ "' is required for SigV4 signing, but was not set. Found: "
      ++ listing found ++ "."
  | chunkSizeInvalid shown => some <|
    "The signing property 'chunk_size' must be a positive integer, but was " ++ shown ++ "."
  | expiresNotWhole shown => some <|
    "The signing property 'expires' must be an integer, but was " ++ shown ++ "."
  | expiresOutOfRange seconds => some <|
    "The signing property 'expires' must be between 1 and " ++ toString maxExpires
      ++ " seconds, but was " ++ toString seconds ++ "."
  | clockOutOfRange => none
  | @propertyUnusable (.raised _ message) => some message
  | propertyUnusable => none
  | dateMissing => some
    "Cannot generate string_to_sign without a valid date in your signing_properties."
  | chunkedInQuery => some <|
    "Chunked encoding requires the signature to be sent in headers. It is not supported for query "
      ++ "string signing."
  | chunkedByAsyncSigner => some <|
    "AsyncSigV4Signer does not support chunked encoding. Use SigV4Signer with a synchronous body "
      ++ "to send aws-chunked payloads."
  | chunkedAsyncBody => some <|
    "An async body was attached to a synchronous signer. Chunked encoding requires a body of type "
      ++ "Iterable[bytes] or a readable file-like object."
  | lengthNotWhole shown => some <|
    "Chunked encoding requires an integer Content-Length, but found " ++ shown ++ "."
  | lengthNegative length => some <|
    "Content-Length must not be negative, but found " ++ toString length ++ "."
  | lengthUnknown => some <|
    "Chunked encoding requires a known payload length. Set the Content-Length field or use a "
      ++ "seekable body."
  | numeralTooLong => none
  | asyncBody => some <|
    "An async body was attached to a synchronous signer. Please use AsyncSigV4Signer for async "
      ++ "AWSRequests or ensure your body is of type Iterable[bytes] or a readable file-like object."
  | syncBody => some <|
    "A sync body was attached to an asynchronous signer. Please use SigV4Signer for sync "
      ++ "AWSRequests or ensure your body is of type AsyncIterable[bytes] or has an async read "
      ++ "method."
  | bodyUnreadable typeName => some <|
    "Unable to compute the payload hash of a " ++ typeName ++ " body. Please provide bytes, an "
      ++ "Iterable[bytes] or a readable file-like object."
  | sourceUnusable => none
  | sizeTooLarge => none
  | connectionReset => some "connection reset"
  | readerClosed => some "I/O operation on closed file."
  | chunkAfterTerminal => some "Cannot sign a chunk after the terminal chunk."
  | payloadTooShort declared read => some <|
    expectedPayload declared ++ toString read ++ " bytes."
  | payloadTooLong declared read => some <|
    expectedPayload declared ++ "at least " ++ toString read ++ " bytes."
  | chunkSizeZero => none
  | noSuchField => none

end Fault

end SigV4
