/-
  The HASH OF THE PAYLOAD, as a canonical request names it.

  1. **Placeholders** — where the payload is not signed, or is signed in chunks, the hash is a fixed
     word and the body is not touched.
  2. **Hashing** — otherwise the whole body is read.  Bytes in memory are simply hashed.  A body that
     can be sought is put back to where it was; of any other body what was read is kept, and takes
     its place in the request that is sent.  The synchronous signer takes any seek for a way back; one
     that has to be waited for does not move the body, which then stays AT ITS END.
  3. **Two signers** — the synchronous one refuses bodies that have to be waited for, the asynchronous
     one all others.

  A hashing may leave TWO bodies: the one that the caller gave, as far as it has been read, and the one
  that is sent in its place.
-/
import SigV4.Context
import SigV4.Payload.Body

namespace SigV4

/-- The body that was given, and the one that is sent in its place if it was used up. -/
structure Exchange where
  given : Body
  instead : Option Body := none

namespace Exchange

/-- The body that is sent. -/
def sent (e : Exchange) : Body := e.instead.getD e.given

end Exchange

namespace PayloadHash

/-- The word for a payload that is not signed. -/
def unsignedPayload : String := "UNSIGNED-PAYLOAD"

/-- The word for a payload that is signed in chunks. -/
def streamingPayload : String := "STREAMING-AWS4-HMAC-SHA256-PAYLOAD"

/-- The word that stands for the hash, if the payload is not hashed. -/
def placeholder? (context : Context) : Option String :=
  if !context.payloadSigning then some unsignedPayload
  else if context.usesChunks then some streamingPayload
  else none

/-- How many bytes the synchronous signer asks for at once. -/
def readSize : Nat := 65536

/-- What was read, as a body that can be sent. -/
def replay (access : Access) (data : Bytes) : Body :=
  match access with
  | .sync => .buffer (.ofBytes data)
  | .async => .reader .library { source := .buffer (.ofBytes data) }

/-- **Reads a supply to its end and hashes it.**  `rewind` puts it back, if that is possible. -/
def ofSupply {σ : Type} [Supply σ] (access : Access) (size : Nat) (wrap : σ → Body)
    (rewind : Option (σ → σ)) (s : σ) : Outcome Exchange String :=
  let o := Supply.drain size s
  match o.result with
  | .error e => ⟨.error e, ⟨wrap o.next, none⟩, .payloadHashed :: o.notices⟩
  | .ok blocks =>
    let exchange : Exchange :=
      match rewind with
      | some back => ⟨wrap (back o.next), none⟩
      | none => ⟨wrap o.next, some (replay access blocks.flatten)⟩
    ⟨.ok (Sha256.hexDigest blocks.flatten), exchange, .payloadHashed :: o.notices⟩

/-- A refusal that leaves the body as it is. -/
def refuse (fault : Fault) (body : Body) : Outcome Exchange String :=
  ⟨.error fault, ⟨body, none⟩, []⟩

/-- The hash of bytes in memory. -/
def ofBytes (data : Bytes) (body : Body) : Outcome Exchange String :=
  ⟨.ok (Sha256.hexDigest data), ⟨body, none⟩, [.payloadHashed]⟩

/-- A source as a body of the same kind. -/
def bodyOf : Source → Body
  | .buffer b => .buffer b
  | .stream s => .stream s
  | .pieces p => .pieces p

/-- A source put back to the place of an earlier state of it. -/
def backTo (earlier : Source) (s : Source) : Source :=
  match earlier, s with
  | .buffer b, .buffer c => .buffer (c.seek b.pos)
  | .stream a, .stream c => .stream (c.seek a.pos)
  | .pieces a, .pieces c => .pieces (c.seek a.pulled)
  | _, s => s

/-- The way back for a stream that is read without waiting, if it has a seek.  A seek that has to be
waited for is called and not waited for, so that it does nothing. -/
def syncWayBack (s : Stream) : Option (Source → Source) :=
  match s.seeking with
  | some .sync => some (backTo (.stream s))
  | some .async => some id
  | none => none

/-- The way back to a state, if it can be gone. -/
def wayBack (possible : Bool) (earlier : Source) : Option (Source → Source) :=
  if possible then some (backTo earlier) else none

/-- The hash of a body that is read without waiting. -/
def sync (body : Body) : Outcome Exchange String :=
  match body with
  | .absent => ⟨.ok (Sha256.hexDigest []), ⟨body, none⟩, []⟩
  | .bytes data => ofBytes data body
  | .byteArray data => ofBytes data body
  | .parts items =>
    ⟨.ok (Sha256.hexDigest items.flatten), ⟨body, some (replay .sync items.flatten)⟩, [.payloadHashed]⟩
  | .buffer b => ofSupply .sync readSize bodyOf (wayBack true (.buffer b)) (Source.buffer b)
  | .stream s =>
    if s.access = .async then refuse .asyncBody body
    else ofSupply .sync readSize bodyOf (syncWayBack s) (Source.stream s)
  | .pieces p =>
    if !p.isSync then refuse .asyncBody body
    else ofSupply .sync readSize bodyOf (wayBack p.seekable (.pieces p)) (Source.pieces p)
  | .series s =>
    if !s.iteration.isSync then refuse .asyncBody body
    else ofSupply .sync readSize (fun _ => .series s) none (Source.pieces s.iteration)
  | .reader _ _ => refuse .asyncBody body
  | .seriesReader _ => refuse .asyncBody body
  | .framed depth p => ofSupply .sync readSize (Body.framed depth) none p
  | .inert typeName => refuse (.bodyUnreadable typeName) body

/-- The hash of a body that is waited for. -/
def async (body : Body) : Outcome Exchange String :=
  match body with
  | .absent => ⟨.ok (Sha256.hexDigest []), ⟨body, none⟩, []⟩
  | .bytes data => ofBytes data body
  | .byteArray data => ofBytes data body
  | .stream s =>
    if s.access = .async then
      ofSupply .async Reader.blockSize bodyOf (wayBack (s.seeking = some .async) (.stream s))
        (Source.stream s)
    else refuse .syncBody body
  | .pieces p =>
    if p.isAsync then
      ofSupply .async Reader.blockSize bodyOf none (Source.pieces p)
    else refuse .syncBody body
  | .series s =>
    if s.iteration.isAsync then
      ofSupply .async Reader.blockSize (fun _ => .series s) none (Source.pieces s.iteration)
    else refuse .syncBody body
  | .reader origin r => ofSupply .async Reader.blockSize (Body.reader origin) none r
  | .seriesReader r => ofSupply .async Reader.blockSize Body.seriesReader none r
  | _ => refuse .syncBody body

/-- **The hash of a payload,** or the word that stands for it. -/
def compute (access : Access) (context : Context) (body : Body) : Outcome Exchange String :=
  match placeholder? context with
  | some word => ⟨.ok word, ⟨body, none⟩, []⟩
  | none =>
    match access with
    | .sync => sync body
    | .async => async body

end PayloadHash

end SigV4
