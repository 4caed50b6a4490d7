/-
  BODIES: everything that a request can carry.

  1. **Kinds** — nothing, bytes, parts in memory, a buffer, a stream, pieces, a series, a reader over
     any of these, a framed payload, or a thing that is no payload at all.  Buffers and readers may come
     from the caller, or from the library, where it had to read a body that can be read only once.
  2. **Classes** — `isAsync` tells which bodies have to be waited for.
  3. **Reading** — `read?` by size and `items?` as a whole iteration; a body of a kind that does not
     offer one of them has `none` there.
  4. **Framing** — `frame` makes a body that is sent in signed chunks.
-/
import SigV4.Payload.Layer
import SigV4.Payload.Series

namespace SigV4

/-- What a request carries. -/
inductive Body where
  | absent
  | bytes (data : Bytes)
  /-- Bytes that their owner may change. -/
  | byteArray (data : Bytes)
  /-- Parts in memory, which can be gone through many times. -/
  | parts (items : List Bytes)
  | buffer (b : Buffer)
  | stream (s : Stream)
  | pieces (p : Pieces)
  /-- Parts that are gone through from the start at every iteration. -/
  | series (s : Series)
  | reader (origin : Origin) (r : Reader)
  /-- A reader that goes through a series once more at every read. -/
  | seriesReader (r : SeriesReader)
  /-- A payload framed `depth + 1` times. -/
  | framed (depth : Nat) (p : Framed (Layer depth))
  /-- A thing of some type that is no payload. -/
  | inert (typeName : String)

namespace Body

/-! ## Classes -/

/-- Whether the body can only be waited for. -/
def isAsync : Body → Bool
  | stream s => s.access == .async
  | pieces p => !p.isSync
  | series s => !s.iteration.isSync
  | reader _ _ => true
  | seriesReader _ => true
  | _ => false

/-- The source below the body, if it has one. -/
def source? : Body → Option Source
  | buffer b => some (.buffer b)
  | stream s => some (.stream s)
  | pieces p => some (.pieces p)
  | reader _ r => some r.source
  | framed depth p => some (Layer.source (depth + 1) p)
  | _ => none

/-- The caller's own source below the body, if there is one. -/
def callersSource? (body : Body) : Option Source :=
  body.source?.filter fun s => s.origin == .caller

/-- A reader over the body, if it can be read, and read once.  A reader over a reader is that reader; one
over a series that has to be asked without waiting goes through it a single time. -/
def reader? : Body → Option Reader
  | bytes data => some { source := .buffer (.ofBytes data) }
  | byteArray data => some { source := .buffer (.ofBytes data) }
  | parts items => some { source := .pieces (.ofParts items) }
  | buffer b => some { source := .buffer b }
  | stream s => some { source := .stream s }
  | pieces p => some { source := .pieces p }
  | series s => if s.iteration.isAsync then none else some { source := .pieces s.iteration }
  | reader _ r => some r
  | _ => none

/-- The caller's own reader over a body, as a body.  A series that can be waited for is gone through at
every read. -/
def asReader? : Body → Option Body
  | series s =>
    if s.iteration.isAsync then some (seriesReader { series := s })
    else some (reader .caller { source := .pieces s.iteration })
  | seriesReader r => some (seriesReader r)
  | body => body.reader?.map (reader .caller)

/-! ## Reading -/

/-- Reads so many bytes, from a body that can be read by size. -/
def read? (size : Option Int) : Body → Option (Outcome Body Bytes)
  | buffer b =>
    match b.read size with
    | .ok (bs, next) => some ⟨.ok bs, buffer next, []⟩
    | .error e => some ⟨.error e, buffer b, []⟩
  | stream s => some ⟨(s.read size).1, stream (s.read size).2, []⟩
  | reader origin r => some ((r.read size).within (reader origin))
  | seriesReader r => some ((r.read size).within seriesReader)
  | framed depth p => some ((p.read size).within (framed depth))
  | _ => none

/-- A whole new iteration, over a body that can be gone through item by item. -/
def items? : Body → Option (Outcome Body (List Bytes))
  | parts items => some ⟨.ok items, parts items, []⟩
  | pieces p =>
    let o := Supply.drain 0 (Source.pieces p)
    match o.next with
    | .pieces next => some ⟨o.result, pieces next, o.notices⟩
    | _ => some ⟨o.result, pieces p, o.notices⟩
  | series s =>
    some ((Supply.drain 0 (Source.pieces s.iteration)).within fun _ => series s)
  | reader origin r => some ((Supply.drain Reader.blockSize r).within (reader origin))
  | seriesReader r => some ((Supply.drain Reader.blockSize r).within seriesReader)
  | framed depth p => some (p.items.within (framed depth))
  | _ => none

/-! ## Framing -/

/-- What the chunks of a body are cut from. -/
def feed? : Body → Option Feed
  | absent => some (.direct (.buffer (.ofBytes [])))
  | bytes data => some (.direct (.buffer (.ofBytes data)))
  | byteArray data => some (.direct (.buffer (.ofBytes data)))
  | parts items => some (.direct (.pieces (.ofParts items)))
  | buffer b => some (.direct (.buffer b))
  | stream s => some (if s.access == .sync then .direct (.stream s) else .awaiting (.stream s))
  | pieces p => if p.isSync then some (.direct (.pieces p)) else none
  | series s => if s.iteration.isSync then some (.direct (.pieces s.iteration)) else none
  | reader _ r => some (.awaiting r.source)
  | seriesReader r => some (.awaiting (.pieces r.series.iteration))
  | framed _ _ => none
  | inert _ => none

/-- **The body in signed chunks.** -/
def frame (signer : ChunkSigner) (chunkSize declared : Int) : Body → Except Fault Body
  | framed depth p =>
    (Framed.start p signer chunkSize declared).map fun outer => framed (depth + 1) outer
  | body =>
    match body.feed? with
    | some feed =>
      (Framed.start feed signer chunkSize declared).map fun outer => framed 0 outer
    | none => .error .sourceUnusable

end Body

end SigV4
