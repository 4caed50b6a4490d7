/-
  CURSORS: iterations over a body that are taken item by item.

  A cursor over parts in memory has its own place in them, and a cursor over a series has pieces of its
  own.  All other cursors share the body's state: what they take is taken from the body.  A cursor over frames first takes what is pending, but only
  when it starts; later it frames chunk after chunk.  Cursors over frames and over blocks are at an
  end for good once they have come to the end or have failed; pieces can be asked again.

  A `Walk` is a cursor that may outlive its body's place in a request: once another body has been put
  there, the walk goes on over the body it was begun on.
-/
import SigV4.Payload.Body

namespace SigV4

/-- How far an iteration has come. -/
inductive Stage where
  | fresh
  | running
  | ended
deriving DecidableEq, Repr

/-- An iteration over a body. -/
inductive Cursor where
  | parts (rest : List Bytes)
  | iteration (p : Pieces)
  | pieces
  | blocks (stage : Stage)
  | frames (stage : Stage)
deriving DecidableEq, Repr

namespace Cursor

/-- A new iteration over a body that can be gone through item by item. -/
def start? : Body → Option Cursor
  | .parts items => some (parts items)
  | .pieces _ => some pieces
  | .series s => some (iteration s.iteration)
  | .reader _ _ => some (blocks .fresh)
  | .seriesReader _ => some (blocks .fresh)
  | .framed _ _ => some (frames .fresh)
  | _ => none

/-- The stage after an item was asked for. -/
def stageAfter : Except Fault (Option Bytes) → Stage
  | .ok (some _) => .running
  | _ => .ended

/-- The first item of an iteration over frames. -/
def firstItem {σ : Type} [Supply σ] (p : Framed σ) : Outcome (Framed σ) (Option Bytes) :=
  if p.pending.isEmpty then p.nextFrame
  else ⟨.ok (some p.pending), { p with pending := [] }, []⟩

/-- **The next item,** or the end; body and cursor go on from there. -/
def next (c : Cursor) (body : Body) : Outcome (Cursor × Body) (Option Bytes) :=
  match c, body with
  | parts (item :: rest), body => ⟨.ok (some item), (parts rest, body), []⟩
  | parts [], body => ⟨.ok none, (parts [], body), []⟩
  | iteration p, body => p.pull.within fun q => (iteration q, body)
  | pieces, .pieces p => p.pull.within fun q => (pieces, .pieces q)
  | blocks .ended, body => ⟨.ok none, (blocks .ended, body), []⟩
  | blocks _, .reader origin r =>
    let o := r.pull Reader.blockSize
    o.within fun q => (blocks (stageAfter o.result), .reader origin q)
  | blocks _, .seriesReader r =>
    let o := (r.read (some Reader.blockSize)).map Bytes.nonempty?
    o.within fun q => (blocks (stageAfter o.result), .seriesReader q)
  | frames .ended, body => ⟨.ok none, (frames .ended, body), []⟩
  | frames .fresh, .framed depth p =>
    let o := firstItem p
    o.within fun q => (frames (stageAfter o.result), .framed depth q)
  | frames .running, .framed depth p =>
    let o := p.nextFrame
    o.within fun q => (frames (stageAfter o.result), .framed depth q)
  | c, body => ⟨.ok none, (c, body), []⟩

end Cursor

/-- A cursor, and the body it goes over if that is no longer the one at hand. -/
structure Walk where
  cursor : Cursor
  apart : Option Body := none

namespace Walk

/-- A new walk over a body that can be gone through item by item. -/
def start? (body : Body) : Option Walk := (Cursor.start? body).map fun c => ⟨c, none⟩

/-- The walk after another body has taken the place of the one at hand. -/
def leave (w : Walk) (left : Body) : Walk := { w with apart := some (w.apart.getD left) }

/-- **The next item** of a walk, while `body` is at hand. -/
def next (w : Walk) (body : Body) : Outcome (Walk × Body) (Option Bytes) :=
  match w.apart with
  | some left =>
    (w.cursor.next left).within fun (cursor, left) => (⟨cursor, some left⟩, body)
  | none => (w.cursor.next body).within fun (cursor, body) => (⟨cursor, none⟩, body)

end Walk

end SigV4
