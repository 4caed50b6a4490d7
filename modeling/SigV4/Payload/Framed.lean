/-
  FRAMED PAYLOADS: a payload as signed chunks, framed as it is read.

  1. **Cutting** — `fill` pulls from the feed until there is enough for a chunk, and holds what is
     over.  Only the last chunk can be shorter; an empty chunk is the end.
  2. **Framing** — `nextFrame` checks the bytes read so far against the declared length BEFORE it
     signs: the empty chunk is signed only if the length is right, and no chunk that goes beyond it
     is signed.  A feed that fails leaves no part of a frame behind.
  3. **Reading** — by size, `readSized` frames chunk after chunk until enough bytes are pending;
     without a size, `readAll` takes what is pending and frames all chunks that are left.

  The crux is `nextFrame_work`: a frame is paid for by the chunk it holds.  By it the loops over frames
  come to an end, and a framed payload is itself a supply, so that it can be cut and framed AGAIN.
-/
import SigV4.Payload.ChunkSigner
import SigV4.Payload.Supply

namespace SigV4

/-- A payload that is cut from a feed, and how far it has been read. -/
structure Framed (σ : Type) where
  feed : σ
  /-- Whether the feed has come to its end. -/
  exhausted : Bool := false
  /-- Bytes that were pulled and not yet framed. -/
  held : Bytes := []
  chunkSize : Int
  signer : ChunkSigner
  /-- The length that the payload has to have. -/
  declared : Int
  /-- The length of all frames of a payload of that length. -/
  contentLength : Int
  /-- How many bytes of the payload have been framed, or refused. -/
  bytesRead : Nat := 0
  /-- Framed bytes that were not asked for yet. -/
  pending : Bytes := []

namespace Framed

variable {σ : Type} [Supply σ]

/-- **A payload of a declared length,** none of it read. -/
def start (feed : σ) (signer : ChunkSigner) (chunkSize declared : Int) :
    Except Fault (Framed σ) :=
  (Frame.totalLength declared chunkSize).map fun total =>
    { feed := feed, chunkSize := chunkSize, signer := signer, declared := declared,
      contentLength := total }

/-- The chunk size as a number of bytes to cut off. -/
def cutSize (p : Framed σ) : Nat := p.chunkSize.toNat

/-! ## Cutting -/

/-- The payload with more bytes held. -/
def hold (p : Framed σ) (feed : σ) (bs : Bytes) : Framed σ :=
  { p with feed := feed, held := p.held ++ bs }

/-- **Pulls until there is enough for a chunk,** or the feed is at its end. -/
def fill (p : Framed σ) : Outcome (Framed σ) Unit :=
  if p.exhausted || p.cutSize ≤ p.held.length then ⟨.ok (), p, []⟩
  else
    match _ : Supply.pull p.cutSize p.feed with
    | ⟨.ok (some bs), feed, notices⟩ => (fill (p.hold feed bs)).after notices
    | ⟨.ok none, feed, notices⟩ => ⟨.ok (), { p with feed := feed, exhausted := true }, notices⟩
    | ⟨.error e, feed, notices⟩ => ⟨.error e, { p with feed := feed }, notices⟩
termination_by Supply.weight p.feed
decreasing_by
  rename_i h
  exact Supply.weight_lt h rfl

/-! ## Framing -/

/-- The next chunk. -/
def chunk (p : Framed σ) : Bytes := p.held.take p.cutSize

/-- The payload without its next chunk. -/
def dropChunk (p : Framed σ) : Framed σ :=
  { p with held := p.held.drop p.cutSize, bytesRead := p.bytesRead + p.chunk.length }

/-- What is wrong with the length once `chunk` has been read as well. -/
def lengthFault? (p : Framed σ) (chunk : Bytes) : Option Fault :=
  if chunk.isEmpty ∧ (p.bytesRead : Int) ≠ p.declared then
    some (.payloadTooShort p.declared p.bytesRead)
  else if (p.bytesRead : Int) > p.declared then some (.payloadTooLong p.declared p.bytesRead)
  else none

/-- Signs a chunk that has just been dropped. -/
def frameChunk (p : Framed σ) (chunk : Bytes) : Outcome (Framed σ) (Option Bytes) :=
  match p.lengthFault? chunk with
  | some fault => ⟨.error fault, p, []⟩
  | none =>
    match p.signer.sign chunk with
    | .ok signed => ⟨.ok (some signed.frame), { p with signer := signed.signer }, [signed.notice]⟩
    | .error e => ⟨.error e, p, []⟩

/-- **The next frame,** or none after the last. -/
def nextFrame (p : Framed σ) : Outcome (Framed σ) (Option Bytes) :=
  if p.signer.state = .terminal then ⟨.ok none, p, []⟩
  else p.fill.andThen fun _ q => q.dropChunk.frameChunk q.chunk

/-! ## What a frame costs -/

/-- What is left to do: the bytes that are not framed, and the empty chunk. -/
def work (p : Framed σ) : Nat :=
  p.held.length + Supply.weight p.feed + if p.signer.state = .terminal then 0 else 1

/-- A bound on the framed bytes that are left. -/
def weight (p : Framed σ) : Nat := p.pending.length + 87 * p.work

omit [Supply σ] in
@[simp] theorem hold_signer (p : Framed σ) (feed : σ) (bs : Bytes) :
    (p.hold feed bs).signer = p.signer := rfl

/-- Filling leaves signer and pending bytes alone and adds no work. -/
theorem fill_work (p : Framed σ) :
    p.fill.next.signer = p.signer ∧ p.fill.next.pending = p.pending
      ∧ ∀ u, p.fill.result = .ok u → p.fill.next.work ≤ p.work := by
  fun_induction fill p with
  | case1 p h => exact ⟨rfl, rfl, fun _ _ => Nat.le_refl _⟩
  | case2 p h bs feed notices hp ih =>
    obtain ⟨hs, hq, hw⟩ := ih
    refine ⟨hs, hq, fun u hu => Nat.le_trans (hw u hu) ?_⟩
    have hb : Supply.weight feed + bs.length ≤ Supply.weight p.feed :=
      Supply.weight_add_le hp rfl
    show (p.held ++ bs).length + Supply.weight feed
        + (if p.signer.state = .terminal then 0 else 1) ≤ p.work
    rw [List.length_append, work]
    omega
  | case3 p h feed notices hp =>
    refine ⟨rfl, rfl, fun _ _ => ?_⟩
    have hb : Supply.weight feed ≤ Supply.weight p.feed := Supply.weight_le hp rfl
    show p.held.length + Supply.weight feed
        + (if p.signer.state = .terminal then 0 else 1) ≤ p.work
    rw [work]
    omega
  | case4 p h e feed notices hp => exact ⟨rfl, rfl, fun u hu => by simp at hu⟩

omit [Supply σ] in
/-- What framing a chunk changes, if it succeeds. -/
theorem frameChunk_ok (p : Framed σ) (chunk : Bytes) {frame : Bytes}
    (h : (p.frameChunk chunk).result = .ok (some frame)) :
    (p.frameChunk chunk).next = { p with signer := p.signer.advance chunk }
      ∧ frame = ChunkSigner.frame (p.signer.signatureOf chunk) chunk
      ∧ p.signer.state ≠ .terminal := by
  unfold frameChunk at h ⊢
  split at h
  · simp at h
  · simp only [ChunkSigner.sign] at h ⊢
    by_cases ht : p.signer.state = .terminal
    · simp [ht] at h
    · simp only [if_neg ht, Except.ok.injEq, Option.some.injEq] at h ⊢
      exact ⟨trivial, h.symm, ht⟩

/-- What the next frame is made of, if there is one. -/
theorem nextFrame_ok (p : Framed σ) {frame : Bytes}
    (h : p.nextFrame.result = .ok (some frame)) :
    ∃ q : Framed σ, q.signer = p.signer ∧ q.pending = p.pending ∧ q.work ≤ p.work
      ∧ p.signer.state ≠ .terminal
      ∧ p.nextFrame.next = { q.dropChunk with signer := q.signer.advance q.chunk }
      ∧ frame = ChunkSigner.frame (q.signer.signatureOf q.chunk) q.chunk := by
  unfold nextFrame at h ⊢
  by_cases ht : p.signer.state = .terminal
  · simp [ht] at h
  · simp only [if_neg ht, Outcome.andThen] at h ⊢
    obtain ⟨hs, hp, hw⟩ := p.fill_work
    cases hr : p.fill.result with
    | error e => simp [hr] at h
    | ok u =>
      simp only [hr, Outcome.result_after, Outcome.next_after] at h ⊢
      obtain ⟨hn, hf, _⟩ := frameChunk_ok _ _ h
      exact ⟨p.fill.next, hs, hp, hw u hr, ht, hn, hf⟩

omit [Supply σ] in
theorem frameChunk_ne_none (p : Framed σ) (chunk : Bytes) :
    (p.frameChunk chunk).result ≠ .ok none := by
  unfold frameChunk
  split
  · simp
  · split <;> simp

/-- There is no frame only once the payload is at its end, and then nothing changes. -/
theorem nextFrame_none (p : Framed σ) (h : p.nextFrame.result = .ok none) :
    p.nextFrame.next = p := by
  unfold nextFrame at h ⊢
  by_cases ht : p.signer.state = .terminal
  · simp [ht]
  · simp only [if_neg ht, Outcome.andThen] at h
    cases hr : p.fill.result with
    | error e => simp [hr] at h
    | ok u =>
      simp only [hr, Outcome.result_after] at h
      exact absurd h (frameChunk_ne_none _ _)

/-- **A frame is paid for by the work that it does.** -/
theorem nextFrame_work (p : Framed σ) (frame : Bytes)
    (h : p.nextFrame.result = .ok (some frame)) :
    p.nextFrame.next.pending = p.pending
      ∧ p.nextFrame.next.work < p.work
      ∧ frame.length + 87 * p.nextFrame.next.work ≤ 87 * p.work := by
  obtain ⟨q, hs, hp, hw, ht, hn, hf⟩ := p.nextFrame_ok h
  have hl := ChunkSigner.length_frame_le q.signer q.chunk
  rw [← hf] at hl
  have hc : q.chunk.length + (q.held.drop q.cutSize).length = q.held.length := by
    simp only [chunk, List.length_take, List.length_drop]; omega
  have hq : q.work = q.held.length + Supply.weight q.feed + 1 := by
    rw [work, if_neg (hs ▸ ht)]
  have hnext : p.nextFrame.next.work
      = (q.held.drop q.cutSize).length + Supply.weight q.feed
        + if q.chunk.isEmpty then 0 else 1 := by
    rw [hn]
    cases hb : q.chunk with
    | nil => simp [work, dropChunk, ChunkSigner.advance]
    | cons b bs => simp [work, dropChunk, ChunkSigner.advance]
  refine ⟨by rw [hn]; exact hp, ?_, ?_⟩
  · rw [hnext]
    cases hb : q.chunk with
    | nil => simp [hb] at hc ⊢; omega
    | cons b bs => simp [hb] at hc ⊢; omega
  · rw [hnext]
    cases hb : q.chunk with
    | nil => simp [hb] at hc hl ⊢; omega
    | cons b bs => simp [hb] at hc hl ⊢; omega

/-! ## Reading -/

/-- The payload with a frame pending. -/
def keep (p : Framed σ) (frame : Bytes) : Framed σ := { p with pending := p.pending ++ frame }

/-- Frames chunks until so many bytes are pending, or the payload is at its end. -/
def gather (size : Nat) (p : Framed σ) : Outcome (Framed σ) Unit :=
  if size ≤ p.pending.length then ⟨.ok (), p, []⟩
  else
    match _ : p.nextFrame with
    | ⟨.ok (some frame), next, notices⟩ => (gather size (next.keep frame)).after notices
    | ⟨.ok none, next, notices⟩ => ⟨.ok (), next, notices⟩
    | ⟨.error e, next, notices⟩ => ⟨.error e, next, notices⟩
termination_by p.work
decreasing_by
  rename_i h
  have := (p.nextFrame_work frame (by rw [h])).2.1
  rw [h] at this
  exact this

/-- The payload with its first pending bytes taken away. -/
def dropPending (p : Framed σ) (size : Nat) : Framed σ :=
  { p with pending := p.pending.drop size }

/-- **Reads so many bytes,** fewer only at the end. -/
def readSized (size : Nat) (p : Framed σ) : Outcome (Framed σ) Bytes :=
  (gather size p).andThen fun _ q => ⟨.ok (q.pending.take size), q.dropPending size, []⟩

/-- **All frames that are left.** -/
def frames (p : Framed σ) : Outcome (Framed σ) (List Bytes) :=
  match _ : p.nextFrame with
  | ⟨.ok (some frame), next, notices⟩ => ((frames next).map (frame :: ·)).after notices
  | ⟨.ok none, next, notices⟩ => ⟨.ok [], next, notices⟩
  | ⟨.error e, next, notices⟩ => ⟨.error e, next, notices⟩
termination_by p.work
decreasing_by
  rename_i h
  have := (p.nextFrame_work frame (by rw [h])).2.1
  rw [h] at this
  exact this

/-- What is pending, if anything is, as the first item of an iteration. -/
def pendingItem (p : Framed σ) : List Bytes := if p.pending.isEmpty then [] else [p.pending]

/-- **A whole iteration:** what is pending, then frame after frame. -/
def items (p : Framed σ) : Outcome (Framed σ) (List Bytes) :=
  (frames { p with pending := [] }).map (p.pendingItem ++ ·)

/-- **Reads;** everything that is left without a size or for a negative one. -/
def read (size : Option Int) (p : Framed σ) : Outcome (Framed σ) Bytes :=
  match size with
  | none => p.items.map List.flatten
  | some n => if n < 0 then p.items.map List.flatten else p.readSized n.toNat

/-! ## A framed payload as a supply -/

/-- Pulls so many framed bytes. -/
def pull (size : Nat) (p : Framed σ) : Outcome (Framed σ) (Option Bytes) :=
  (p.readSized size).map Bytes.nonempty?

theorem gather_weight (size : Nat) (p : Framed σ) {u : Unit}
    (h : (gather size p).result = .ok u) : (gather size p).next.weight ≤ p.weight := by
  fun_induction gather size p with
  | case1 p hl => exact Nat.le_refl _
  | case2 p hl frame next notices hn ih =>
    refine Nat.le_trans (ih h) ?_
    obtain ⟨hp, _, hw⟩ := p.nextFrame_work frame (by rw [hn])
    rw [hn] at hp hw
    have hw' : frame.length + 87 * next.work ≤ 87 * p.work := hw
    have hp' : next.pending = p.pending := hp
    show (next.pending ++ frame).length + 87 * next.work ≤ p.weight
    rw [hp', List.length_append, weight]
    omega
  | case3 p hl next notices hn =>
    have := p.nextFrame_none (by rw [hn])
    rw [hn] at this
    have hnext : next = p := this
    exact Nat.le_of_eq (by rw [hnext])
  | case4 => simp at h

theorem readSized_weight (size : Nat) (p : Framed σ) {bs : Bytes}
    (h : (p.readSized size).result = .ok bs) :
    (p.readSized size).next.weight + bs.length ≤ p.weight := by
  unfold readSized Outcome.andThen at h ⊢
  cases hg : (gather size p).result with
  | error e => simp [hg] at h
  | ok u =>
    simp only [hg, Outcome.result_after, Outcome.next_after, Except.ok.injEq] at h ⊢
    subst h
    have hw := gather_weight size p hg
    have hk : ((gather size p).next.dropPending size).work = (gather size p).next.work := rfl
    rw [weight, hk]
    simp only [dropPending, weight, List.length_take, List.length_drop] at hw ⊢
    omega

theorem pull_lightens (size : Nat) (p : Framed σ) : (p.pull size).Lightens weight p.weight :=
  Outcome.lightens_of_read fun _ h => p.readSized_weight size h

instance : Supply (Framed σ) := ⟨pull, weight, pull_lightens⟩

end Framed

end SigV4
