/-
  The CONTENTS of bodies: which bytes a body still yields, and what becomes of them in chunks.

  1. **Contents** — `Body.rest` is what is left of a body.  For a framed payload these are framed
     bytes, for all others the plain ones.  Of a reader over a series nothing is ever used up but what it
     holds.
  2. **What a body has to keep to** — `Body.Honest`: it does not pretend to be at its end.
     `Body.Unfailing`: reading it without waiting does not fail either.  Bytes that are read through a
     buffer can only be asked for in sizes that a buffer can count.
  3. **Framing a body** — `frame_started`: every body that can be read without waiting can be framed, with
     any length; `frame_begun`: with its own, what then remains is the framing of its contents.
-/
import SigV4.Payload.Body
import SigV4.Proofs.Payload.Steady

namespace SigV4

namespace Framed

/-- Whether a read is to deliver everything. -/
def isWhole (size : Option Int) : Bool := size.all (· < 0)

variable {σ : Type} [Supply σ]

theorem read_whole {size : Option Int} (h : isWhole size = true) (p : Framed σ) :
    p.read size = p.items.map List.flatten := by
  cases size with
  | none => rfl
  | some n => exact if_pos (by simpa [isWhole] using h)

theorem read_sized {size : Option Int} (h : isWhole size = false) (p : Framed σ) :
    p.read size = p.readSized (size.getD 0).toNat := by
  cases size with
  | none => exact nomatch h
  | some n => exact if_neg (by simpa [isWhole] using h)

omit [Supply σ] in
/-- What a payload starts with, whatever its length on the wire is. -/
theorem start_eq_ok {chunkSize : Int} (h0 : chunkSize ≠ 0) (feed : σ) (signer : ChunkSigner)
    (declared : Int) :
    ∃ total : Int, Framed.start feed signer chunkSize declared
      = .ok ⟨feed, false, [], chunkSize, signer, declared, total, 0, []⟩ := by
  rw [start, Frame.totalLength, if_neg h0]
  exact ⟨_, rfl⟩

variable [Stock σ]

/-- A framed payload of which nothing has been read. -/
structure Begun (signer : ChunkSigner) (size : Nat) (payload : Bytes) (p : Framed σ) : Prop where
  exact : p.Exact
  pending : p.pending = []
  framesLeft : p.framesLeft = Framing.ofPayload signer size payload

theorem Begun.remaining {signer : ChunkSigner} {size : Nat} {payload : Bytes} {p : Framed σ}
    (h : p.Begun signer size payload) :
    p.remaining = (Framing.ofPayload signer size payload).flatten := by
  rw [Framed.remaining, h.pending, h.framesLeft, List.nil_append]

/-- What is cut from a feed whose length is declared has the framing of its contents before it. -/
theorem begun_of_feed {feed : σ} (hfeed : Stock.Honest feed) {payload : Bytes}
    (hrest : Stock.rest feed = payload) {signer : ChunkSigner} (hsigner : signer.state ≠ .terminal)
    {chunkSize : Int} (hsize : 1 ≤ chunkSize) (total : Int) :
    Begun signer chunkSize.toNat payload
      ⟨feed, false, [], chunkSize, signer, payload.length, total, 0, []⟩ := by
  subst hrest
  refine ⟨⟨⟨?_, hfeed, ?_⟩, ?_⟩, rfl, ?_⟩
  · show 0 < chunkSize.toNat
    omega
  · intro he
    exact nomatch he
  · show ((0 + ([] ++ Stock.rest feed).length : Nat) : Int) = _
    simp
  · rw [framesLeft, if_neg hsigner]
    rfl

end Framed

namespace Body

/-! ## Contents -/

/-- **The bytes that a body still yields.** -/
def rest : Body → Bytes
  | absent => []
  | bytes data => data
  | byteArray data => data
  | parts items => items.flatten
  | buffer b => b.rest
  | stream s => s.rest
  | pieces p => p.rest.flatten
  | series s => s.parts.flatten
  | reader _ r => r.held ++ r.source.rest
  | seriesReader r => r.held
  | framed _ p => p.remaining
  | inert _ => []

/-- Whether the ends that are found in a body are its end; a framed payload must be of the length that
was declared for it. -/
def Honest : Body → Prop
  | stream s => s.Honest
  | reader _ r => r.source.Honest
  | framed _ p => p.Exact
  | _ => True

/-- Whether reading a body in portions of `size` bytes, without waiting, does not fail. -/
def Unfailing (size : Nat) : Body → Prop
  | absent => Buffer.isCountable (some (size : Int)) = true
  | bytes _ => Buffer.isCountable (some (size : Int)) = true
  | byteArray _ => Buffer.isCountable (some (size : Int)) = true
  | parts _ => True
  | buffer b => b.closed = false ∧ Buffer.isCountable (some (size : Int)) = true
  | stream s => s.access = .sync ∧ s.Unfailing
  | pieces p => p.isSync = true ∧ p.Unfailing
  | series s => s.iteration.isSync = true ∧ s.iteration.Unfailing
  | reader _ _ => False
  | seriesReader _ => False
  | framed _ p => p.Steady
  | inert _ => False

/-- A body that can be read without waiting, if it can be read at all. -/
structure Readable (body : Body) : Prop where
  sync : body.isAsync = false
  some_thing : ∀ typeName, body ≠ inert typeName

theorem Unfailing.readable {size : Nat} {body : Body} (h : body.Unfailing size) :
    body.Readable := by
  cases body with
  | stream s => exact ⟨by simp [isAsync, h.1], fun _ => nofun⟩
  | pieces p => exact ⟨by simp [isAsync, h.1], fun _ => nofun⟩
  | series s => exact ⟨by simp [isAsync, h.1], fun _ => nofun⟩
  | reader origin r => exact h.elim
  | seriesReader r => exact h.elim
  | inert typeName => exact h.elim
  | _ => exact ⟨rfl, fun _ => nofun⟩

/-! ## Framing a body -/

/-- A body that can be read at once is cut from a source with the same contents. -/
theorem Readable.source {body : Body} (h : body.Readable) (hh : body.Honest)
    (hf : ∀ depth p, body ≠ framed depth p) :
    ∃ s : Source, body.feed? = some (.direct s) ∧ s.rest = body.rest ∧ s.Honest
      ∧ ∀ size, body.Unfailing size → s.Unfailing size := by
  cases body with
  | absent => exact ⟨_, rfl, rfl, trivial, fun _ hu => ⟨rfl, hu⟩⟩
  | bytes data => exact ⟨_, rfl, rfl, trivial, fun _ hu => ⟨rfl, hu⟩⟩
  | byteArray data => exact ⟨_, rfl, rfl, trivial, fun _ hu => ⟨rfl, hu⟩⟩
  | parts items => exact ⟨_, rfl, rfl, trivial, fun _ _ => fun _ hn => nomatch hn⟩
  | buffer b => exact ⟨_, rfl, rfl, trivial, fun _ hu => hu⟩
  | stream s =>
    have hs : s.access = .sync := by
      have := h.sync
      cases ha : s.access with
      | sync => rfl
      | async => simp [isAsync, ha] at this
    exact ⟨.stream s, by simp [feed?, hs], rfl, hh, fun _ hu => hu.2⟩
  | pieces p =>
    have hs : p.isSync = true := by
      have := h.sync
      simpa [isAsync] using this
    exact ⟨.pieces p, by simp [feed?, hs], rfl, trivial, fun _ hu => hu.2⟩
  | series s =>
    have hs : s.iteration.isSync = true := by
      have := h.sync
      simpa [isAsync] using this
    exact ⟨.pieces s.iteration, by simp [feed?, hs], rfl, trivial, fun _ hu => hu.2⟩
  | reader origin r => exact absurd h.sync (by simp [isAsync])
  | seriesReader r => exact absurd h.sync (by simp [isAsync])
  | framed depth p => exact absurd rfl (hf depth p)
  | inert typeName => exact absurd rfl (h.some_thing typeName)

/-- A body that is no framed payload is cut from its feed. -/
theorem frame_eq_map {body : Body} {feed : Feed} (hfeed : body.feed? = some feed)
    (signer : ChunkSigner) (chunkSize declared : Int) :
    body.frame signer chunkSize declared
      = (Framed.start feed signer chunkSize declared).map (framed 0) := by
  unfold frame
  split
  · exact nomatch hfeed
  · rw [hfeed]

theorem frame_of_feed {body : Body} {feed : Feed} (hfeed : body.feed? = some feed)
    {signer : ChunkSigner} {chunkSize declared : Int} {p : Framed (Layer 0)}
    (hp : Framed.start feed signer chunkSize declared = .ok p) :
    body.frame signer chunkSize declared = .ok (framed 0 p) := by
  rw [frame_eq_map hfeed, hp]
  rfl

/-- **A body that can be read at once can be framed,** with any length; what it is cut from has its
contents. -/
theorem frame_started {body : Body} (h : body.Readable) (hh : body.Honest) (signer : ChunkSigner)
    {chunkSize : Int} (h0 : chunkSize ≠ 0) (declared : Int) :
    ∃ (depth : Nat) (feed : Layer depth) (total : Int),
      Frame.totalLength declared chunkSize = .ok total
        ∧ body.frame signer chunkSize declared
          = .ok (framed depth ⟨feed, false, [], chunkSize, signer, declared, total, 0, []⟩)
        ∧ Stock.Honest feed ∧ Stock.rest feed = body.rest
        ∧ ∀ size, body.Unfailing size → Supply.Steady size feed := by
  obtain ⟨total, htotal⟩ : ∃ total, Frame.totalLength declared chunkSize = .ok total :=
    ⟨_, if_neg h0⟩
  have hstart {σ : Type} (feed : σ) : Framed.start feed signer chunkSize declared
      = .ok ⟨feed, false, [], chunkSize, signer, declared, total, 0, []⟩ := by
    rw [Framed.start, htotal]
    rfl
  by_cases hf : ∃ depth p, body = framed depth p
  · -- a framed payload is a supply itself and is framed once more
    obtain ⟨depth, p, rfl⟩ := hf
    have hp : p.Exact := hh
    refine ⟨depth + 1, p, total, htotal, ?_, hp, rfl, fun size hu => Framed.steady_pull size hp hu⟩
    show (Framed.start p signer chunkSize declared).map _ = _
    rw [hstart]
    rfl
  · obtain ⟨s, hfeed, hrest, hhs, hus⟩ := h.source hh fun depth p e => hf ⟨depth, p, e⟩
    exact ⟨0, Feed.direct s, total, htotal, frame_of_feed hfeed (hstart _), hhs, hrest,
      fun size hu => Feed.steady_direct (hus size hu)⟩

/-- A body that is framed WITH ITS OWN LENGTH has the framing of its contents before it. -/
theorem frame_begun {body : Body} (h : body.Readable) (hh : body.Honest) {signer : ChunkSigner}
    (hsigner : signer.state ≠ .terminal) {chunkSize : Int} (hsize : 1 ≤ chunkSize) :
    ∃ (depth : Nat) (p : Framed (Layer depth)),
      body.frame signer chunkSize body.rest.length = .ok (framed depth p)
        ∧ p.Begun signer chunkSize.toNat body.rest
        ∧ (body.Unfailing chunkSize.toNat → p.Steady) := by
  obtain ⟨depth, feed, total, -, hframe, hfeed, hrest, hsteady⟩ :=
    frame_started h hh signer (by omega : chunkSize ≠ 0) body.rest.length
  exact ⟨depth, _, hframe, Framed.begun_of_feed hfeed hrest hsigner hsize total,
    fun hu => Or.inr (hsteady _ hu)⟩

end Body

end SigV4
