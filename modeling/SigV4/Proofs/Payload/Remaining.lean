/-
  WHAT REMAINS of a framed payload that has been read in part.

  1. **The view** — a state of a payload counts as the bytes that it will still deliver:
     `remaining` is what is pending, followed by the framing of what is not framed.
  2. **Invariants** — `Sound`: the feed is honest and the chunk size positive.  `Exact`: the declared
     length is the payload's length as well.
  3. **One frame** — `Asked` lists everything that asking for a frame can do: the payload is over, the
     feed fails, the length is wrong, or a frame is made.  `asked_nextFrame` says that the list is
     complete; nothing below takes `nextFrame` apart again.
  4. **Reading** — a read by size either takes the first of what remains, or fails and takes nothing
     (`readSized_takes`).  Reading all frames takes all of them, but where it fails the frames that
     it has signed are GONE (`frames_takes`).
-/
import SigV4.Payload.Layer
import SigV4.Proofs.Payload.Framing
import SigV4.Proofs.Payload.Stock

namespace SigV4.Framed

variable {σ : Type} [Supply σ] [Stock σ]

/-! ## The view -/

/-- The bytes of the payload that are not framed. -/
def unframed (p : Framed σ) : Bytes := p.held ++ Stock.rest p.feed

/-- The frames that are still to be made. -/
def framesLeft (p : Framed σ) : List Bytes :=
  if p.signer.state = .terminal then [] else Framing.ofPayload p.signer p.cutSize p.unframed

/-- **The framed bytes that are still to be delivered.** -/
def remaining (p : Framed σ) : Bytes := p.pending ++ p.framesLeft.flatten

/-- How long the payload is, what was read of it included. -/
def total (p : Framed σ) : Nat := p.bytesRead + p.unframed.length

/-! ## Invariants -/

/-- A payload that is cut from an honest feed. -/
structure Sound (p : Framed σ) : Prop where
  positive : 0 < p.cutSize
  honest : Stock.Honest p.feed
  exhausted : p.exhausted = true → Stock.rest p.feed = []

/-- A payload of the declared length. -/
structure Exact (p : Framed σ) : Prop extends Sound p where
  length : (p.total : Int) = p.declared

/-- Whatever is pending, the payload is of the declared length. -/
theorem Exact.pend {p : Framed σ} (h : p.Exact) (pending : Bytes) :
    Exact { p with pending := pending } :=
  ⟨⟨h.positive, h.honest, h.exhausted⟩, h.length⟩

/-- `q` is `p` after some pulls: they move bytes from the feed to those that are held. -/
structure Filled (p q : Framed σ) : Prop where
  sound : q.Sound
  unframed : q.unframed = p.unframed
  chunkSize : q.chunkSize = p.chunkSize
  signer : q.signer = p.signer
  declared : q.declared = p.declared
  bytesRead : q.bytesRead = p.bytesRead
  pending : q.pending = p.pending

theorem Sound.filled {p : Framed σ} (h : p.Sound) : Filled p p :=
  ⟨h, rfl, rfl, rfl, rfl, rfl, rfl⟩

theorem Filled.trans {p q r : Framed σ} (h : Filled p q) (h' : Filled q r) : Filled p r :=
  ⟨h'.sound, h'.unframed.trans h.unframed, h'.chunkSize.trans h.chunkSize,
    h'.signer.trans h.signer, h'.declared.trans h.declared, h'.bytesRead.trans h.bytesRead,
    h'.pending.trans h.pending⟩

theorem Filled.cutSize {p q : Framed σ} (h : Filled p q) : q.cutSize = p.cutSize := by
  rw [Framed.cutSize, Framed.cutSize, h.chunkSize]

theorem Filled.framesLeft {p q : Framed σ} (h : Filled p q) : q.framesLeft = p.framesLeft := by
  rw [Framed.framesLeft, Framed.framesLeft, h.signer, h.cutSize, h.unframed]

theorem Filled.exact {p q : Framed σ} (h : Filled p q) (hp : p.Exact) : q.Exact :=
  ⟨h.sound, by rw [total, h.bytesRead, h.unframed, h.declared]; exact hp.length⟩

/-! ## Filling -/

/-- Filling, failed or not, only moves bytes. -/
theorem filled_fill {p : Framed σ} (h : p.Sound) : Filled p p.fill.next := by
  fun_induction fill p with
  | case1 p hc => exact h.filled
  | case2 p hc bs feed notices hp ih =>
    have ht := Stock.takes_pull p.cutSize p.feed h.positive h.honest
    have hn := Stock.honest_pull p.cutSize p.feed h.honest
    rw [hp] at ht hn
    have hrest : bs ++ Stock.rest feed = Stock.rest p.feed := ht
    have he : ¬p.exhausted = true := fun e => hc (by simp [e])
    have hs : (p.hold feed bs).Sound := ⟨h.positive, hn, fun e => absurd e he⟩
    refine Filled.trans ⟨hs, ?_, rfl, rfl, rfl, rfl, rfl⟩ (ih hs)
    -- the bytes that left the feed are held now
    show p.held ++ bs ++ Stock.rest feed = p.held ++ Stock.rest p.feed
    rw [List.append_assoc, hrest]
  | case3 p hc feed notices hp =>
    have ht := Stock.takes_pull p.cutSize p.feed h.positive h.honest
    have hn := Stock.honest_pull p.cutSize p.feed h.honest
    rw [hp] at ht hn
    obtain ⟨hbefore, hafter⟩ := ht
    refine ⟨⟨h.positive, hn, fun _ => hafter⟩, ?_, rfl, rfl, rfl, rfl, rfl⟩
    show p.held ++ Stock.rest feed = p.held ++ Stock.rest p.feed
    rw [hbefore, hafter]
  | case4 p hc e feed notices hp =>
    have ht := Stock.takes_pull p.cutSize p.feed h.positive h.honest
    have hn := Stock.honest_pull p.cutSize p.feed h.honest
    rw [hp] at ht hn
    have hrest : Stock.rest feed = Stock.rest p.feed := ht
    have he : ¬p.exhausted = true := fun e => hc (by simp [e])
    refine ⟨⟨h.positive, hn, fun e => absurd e he⟩, ?_, rfl, rfl, rfl, rfl, rfl⟩
    show p.held ++ Stock.rest feed = p.held ++ Stock.rest p.feed
    rw [hrest]

/-- Once filled, there is enough for a chunk or there is nothing to come. -/
theorem enough_fill {p : Framed σ} (h : p.Sound) {u : Unit} (hr : p.fill.result = .ok u) :
    p.fill.next.cutSize ≤ p.fill.next.held.length ∨ Stock.rest p.fill.next.feed = [] := by
  fun_induction fill p with
  | case1 p hc =>
    rcases Bool.or_eq_true _ _ ▸ hc with hc | hc
    · exact Or.inr (h.exhausted hc)
    · exact Or.inl (by simpa using hc)
  | case2 p hc bs feed notices hp ih =>
    have hn := Stock.honest_pull p.cutSize p.feed h.honest
    rw [hp] at hn
    have he : ¬p.exhausted = true := fun e => hc (by simp [e])
    exact ih ⟨h.positive, hn, fun e => absurd e he⟩ hr
  | case3 p hc feed notices hp =>
    have ht := Stock.takes_pull p.cutSize p.feed h.positive h.honest
    rw [hp] at ht
    exact Or.inr ht.2
  | case4 => simp at hr

/-- The chunk of a payload that is filled is the first slice of what is not framed. -/
theorem chunk_fill {p : Framed σ} (h : p.Sound) {u : Unit} (hr : p.fill.result = .ok u) :
    p.fill.next.chunk = p.unframed.take p.cutSize := by
  have hf := filled_fill h
  rw [← hf.unframed, ← hf.cutSize, chunk, unframed]
  rcases enough_fill h hr with he | he
  · rw [List.take_append_of_le_length he]
  · rw [he, List.append_nil]

/-! ## One frame -/

/-- **Everything that asking for a frame can do.** -/
inductive Asked (p : Framed σ) (o : Outcome (Framed σ) (Option Bytes)) : Prop where
  /-- The payload is over. -/
  | ended (state : p.signer.state = .terminal) (result : o.result = .ok none) (next : o.next = p)
  /-- The feed fails. -/
  | failed (e : Fault) (state : p.signer.state ≠ .terminal) (fill : p.fill.result = .error e)
      (filled : Filled p o.next) (result : o.result = .error e)
  /-- The next slice shows that the length is wrong. -/
  | refused (q : Framed σ) (e : Fault) (state : p.signer.state ≠ .terminal)
      (fill : p.fill.next = q) (filled : Filled p q) (slice : q.chunk = p.unframed.take p.cutSize)
      (wrong : q.dropChunk.lengthFault? q.chunk = some e) (result : o.result = .error e)
      (next : o.next = q.dropChunk)
  /-- The next slice is framed. -/
  | made (q : Framed σ) (state : p.signer.state ≠ .terminal) (fill : p.fill.next = q)
      (filled : Filled p q) (slice : q.chunk = p.unframed.take p.cutSize)
      (right : q.dropChunk.lengthFault? q.chunk = none)
      (result : o.result = .ok (some (ChunkSigner.frame (p.signer.signatureOf q.chunk) q.chunk)))
      (next : o.next = { q.dropChunk with signer := p.signer.advance q.chunk })

theorem asked_nextFrame {p : Framed σ} (h : p.Sound) : Asked p p.nextFrame := by
  have hf := filled_fill h
  unfold nextFrame
  by_cases ht : p.signer.state = .terminal
  · rw [if_pos ht]
    exact .ended ht rfl rfl
  · rw [if_neg ht]
    unfold Outcome.andThen
    cases hr : p.fill.result with
    | error e => exact .failed e ht hr hf rfl
    | ok u =>
      have hc := chunk_fill h hr
      have hsigner : p.fill.next.dropChunk.signer = p.signer := hf.signer
      cases hw : p.fill.next.dropChunk.lengthFault? p.fill.next.chunk with
      | some e =>
        refine .refused p.fill.next e ht rfl hf hc hw ?_ ?_
        · simp [frameChunk, hw]
        · simp [frameChunk, hw]
      | none =>
        refine .made p.fill.next ht rfl hf hc hw ?_ ?_
        · simp [frameChunk, hw, ChunkSigner.sign, hsigner, ht]
        · simp [frameChunk, hw, ChunkSigner.sign, hsigner, ht]

/-- Dropping a slice takes it off what is not framed and counts it. -/
theorem unframed_dropChunk {p q : Framed σ} (h : Filled p q)
    (hc : q.chunk = p.unframed.take p.cutSize) :
    q.dropChunk.unframed = p.unframed.drop p.cutSize := by
  have hq : q.chunk ++ q.dropChunk.unframed = q.unframed := by
    show q.held.take q.cutSize ++ (q.held.drop q.cutSize ++ Stock.rest q.feed)
      = q.held ++ Stock.rest q.feed
    rw [← List.append_assoc, List.take_append_drop]
  rw [h.unframed, hc] at hq
  exact List.append_cancel_left (hq.trans (List.take_append_drop _ _).symm)

theorem total_dropChunk {p q : Framed σ} (h : Filled p q)
    (hc : q.chunk = p.unframed.take p.cutSize) : q.dropChunk.total = p.total := by
  rw [total, unframed_dropChunk h hc, total]
  show q.bytesRead + q.chunk.length + (p.unframed.drop p.cutSize).length = _
  rw [h.bytesRead, hc, Nat.add_assoc, ← List.length_append, List.take_append_drop]

theorem bytesRead_dropChunk {p q : Framed σ} (h : Filled p q) :
    q.dropChunk.bytesRead = p.bytesRead + q.chunk.length := by
  show q.bytesRead + q.chunk.length = _
  rw [h.bytesRead]

theorem Sound.dropChunk {p : Framed σ} (h : p.Sound) : p.dropChunk.Sound :=
  ⟨h.positive, h.honest, h.exhausted⟩

/-- A slice is empty only AT THE END. -/
theorem chunk_eq_nil_iff {p q : Framed σ} (h : p.Sound) (hc : q.chunk = p.unframed.take p.cutSize) :
    q.chunk = [] ↔ p.unframed = [] := by
  rw [hc]
  constructor
  · exact fun he => Decidable.of_not_not fun hu => Framing.take_ne_nil h.positive hu he
  · exact fun hu => by rw [hu, List.take_nil]

/-- Where the length is right, NO SLICE IS REFUSED. -/
theorem lengthFault_eq_none {p q : Framed σ} (hp : p.Exact) (h : Filled p q)
    (hc : q.chunk = p.unframed.take p.cutSize) : q.dropChunk.lengthFault? q.chunk = none := by
  have ht : (q.dropChunk.total : Int) = q.dropChunk.declared := by
    rw [total_dropChunk h hc, hp.length]
    exact h.declared.symm
  rw [total] at ht
  have hle : ¬(q.dropChunk.bytesRead : Int) > q.dropChunk.declared := by omega
  have hempty : ¬(q.chunk.isEmpty = true ∧ (q.dropChunk.bytesRead : Int) ≠ q.dropChunk.declared) := by
    rintro ⟨he, hne⟩
    -- an empty slice means that nothing is left, so all bytes have been counted
    have hu : p.unframed = [] := by
      rw [hc, List.isEmpty_iff] at he
      exact Decidable.of_not_not fun hu => Framing.take_ne_nil hp.positive hu he
    rw [unframed_dropChunk h hc, hu, List.drop_nil, List.length_nil] at ht
    omega
  rw [lengthFault?, if_neg hempty, if_neg hle]

/-- **What a frame takes.**  A frame that is made is the first of those that are left; a feed that
fails leaves them all. -/
theorem nextFrame_takes {p : Framed σ} (h : p.Exact) :
    p.nextFrame.next.Exact ∧ p.nextFrame.next.pending = p.pending
      ∧ match p.nextFrame.result with
        | .ok (some frame) => p.framesLeft = frame :: p.nextFrame.next.framesLeft
            ∧ p.nextFrame.next.signer.count = p.signer.count + 1
        | .ok none => p.framesLeft = [] ∧ p.nextFrame.next = p
        | .error _ => p.nextFrame.next.framesLeft = p.framesLeft
            ∧ p.nextFrame.next.signer.count = p.signer.count := by
  cases asked_nextFrame h.toSound with
  | ended state result next =>
    rw [result, next]
    exact ⟨h, rfl, by rw [framesLeft, if_pos state], rfl⟩
  | failed e state fill filled result =>
    rw [result]
    exact ⟨filled.exact h, filled.pending, filled.framesLeft, by rw [filled.signer]⟩
  | refused q e state fill filled slice wrong result next =>
    rw [lengthFault_eq_none h filled slice] at wrong
    exact nomatch wrong
  | made q state fill filled slice right result next =>
    have hexact : (q.dropChunk.total : Int) = q.dropChunk.declared := by
      rw [total_dropChunk filled slice, h.length]
      exact filled.declared.symm
    rw [result, next]
    refine ⟨⟨⟨filled.sound.positive, filled.sound.honest, filled.sound.exhausted⟩, hexact⟩,
      filled.pending, ?_, rfl⟩
    -- the frame is the first of the framing; what is left is compared by whether the slice is empty
    rw [framesLeft, if_neg state, Framing.ofPayload_step p.signer h.positive, ← slice]
    congr 1
    show _ = if (if q.chunk.isEmpty then ChunkState.terminal else .signing) = .terminal then []
      else Framing.ofPayload (p.signer.advance q.chunk) q.cutSize q.dropChunk.unframed
    rw [unframed_dropChunk filled slice, filled.cutSize]
    by_cases hu : p.unframed = []
    · rw [if_pos hu, slice, hu, List.take_nil]
      rfl
    · have hne : ¬q.chunk.isEmpty = true := by
        rw [slice, List.isEmpty_iff]
        exact Framing.take_ne_nil h.positive hu
      rw [if_neg hu, if_neg hne, if_neg (by simp)]

/-! ## Reading by size -/

/-- Gathering, failed or not, moves frames to what is pending; if it succeeds there is enough, or
nothing to come. -/
theorem gather_keeps (size : Nat) {p : Framed σ} (h : p.Exact) :
    (gather size p).next.Exact ∧ (gather size p).next.remaining = p.remaining
      ∧ ((gather size p).result = .ok () →
          size ≤ (gather size p).next.pending.length ∨ (gather size p).next.framesLeft = []) := by
  fun_induction gather size p with
  | case1 p hl => exact ⟨h, rfl, fun _ => Or.inl hl⟩
  | case2 p hl frame next notices hn ih =>
    obtain ⟨hx, hp, hf, -⟩ := hn ▸ nextFrame_takes h
    have hk : (next.keep frame).Exact := hx.pend _
    obtain ⟨hx', hr, he⟩ := ih hk
    refine ⟨hx', hr.trans ?_, he⟩
    -- a frame moves from those that are left to the end of what is pending
    have hpend : next.pending = p.pending := hp
    have hleft : p.framesLeft = frame :: next.framesLeft := hf
    show next.pending ++ frame ++ next.framesLeft.flatten = p.remaining
    rw [remaining, hleft, hpend, List.flatten_cons, List.append_assoc]
  | case3 p hl next notices hn =>
    obtain ⟨hx, -, hf, hq⟩ := hn ▸ nextFrame_takes h
    have hnext : next = p := hq
    rw [hnext]
    exact ⟨h, rfl, fun _ => Or.inr hf⟩
  | case4 p hl e next notices hn =>
    obtain ⟨hx, hp, hf, -⟩ := hn ▸ nextFrame_takes h
    have hpend : next.pending = p.pending := hp
    have hleft : next.framesLeft = p.framesLeft := hf
    refine ⟨hx, ?_, fun hr => by simp at hr⟩
    show next.pending ++ next.framesLeft.flatten = p.remaining
    rw [remaining, hpend, hleft]

/-- **A read by size delivers the first of what remains;** one that fails takes nothing. -/
theorem readSized_takes (size : Nat) {p : Framed σ} (h : p.Exact) :
    (p.readSized size).next.Exact
      ∧ match (p.readSized size).result with
        | .ok bs => bs = p.remaining.take size
            ∧ (p.readSized size).next.remaining = p.remaining.drop size
        | .error _ => (p.readSized size).next.remaining = p.remaining := by
  obtain ⟨hx, hr, he⟩ := gather_keeps size h
  unfold readSized Outcome.andThen
  cases hg : (gather size p).result with
  | error e => exact ⟨hx, hr⟩
  | ok u =>
    refine ⟨hx.pend _, ?_⟩
    rw [← hr]
    generalize (gather size p).next = q at he
    show q.pending.take size = q.remaining.take size
      ∧ q.pending.drop size ++ q.framesLeft.flatten = q.remaining.drop size
    rw [remaining]
    rcases he hg with he | he
    · rw [List.take_append_of_le_length he, List.drop_append_of_le_length he]
      exact ⟨rfl, rfl⟩
    · simp [he]

/-- A read by size is empty ONLY WHERE NOTHING REMAINS. -/
theorem readSized_empty {size : Nat} (h0 : 0 < size) {p : Framed σ} (h : p.Exact)
    (hr : (p.readSized size).result = .ok []) : p.remaining = [] := by
  have ht := (readSized_takes size h).2
  rw [hr] at ht
  exact (List.take_eq_nil_iff.mp ht.1.symm).resolve_left (by omega)

/-! ## Reading all frames -/

/-- **An iteration delivers all frames that are left.**  One that fails leaves what it did not frame,
and has used up as many frames as it signed. -/
theorem frames_takes {p : Framed σ} (h : p.Exact) :
    (frames p).next.Exact ∧ (frames p).next.pending = p.pending
      ∧ match (frames p).result with
        | .ok made => made = p.framesLeft ∧ (frames p).next.framesLeft = []
        | .error _ => ∃ lost, p.framesLeft = lost ++ (frames p).next.framesLeft
            ∧ (frames p).next.signer.count = p.signer.count + lost.length := by
  fun_induction frames p with
  | case1 p frame next notices hn ih =>
    obtain ⟨hx, hp, hf, hcount⟩ := hn ▸ nextFrame_takes h
    have hleft : p.framesLeft = frame :: next.framesLeft := hf
    have hsigned : next.signer.count = p.signer.count + 1 := hcount
    obtain ⟨hx', hp', hr⟩ := ih hx
    refine ⟨hx', hp'.trans hp, ?_⟩
    simp only [Outcome.result_after, Outcome.result_map, Outcome.next_after, Outcome.next_map]
    -- the frame that was just made shares the fate of those behind it
    cases hd : (frames next).result with
    | ok made =>
      rw [hd] at hr
      exact ⟨by rw [hleft, hr.1], hr.2⟩
    | error e =>
      rw [hd] at hr
      obtain ⟨lost, hl, hc⟩ := hr
      refine ⟨frame :: lost, by rw [hleft, hl, List.cons_append], ?_⟩
      rw [hc, hsigned, List.length_cons]
      omega
  | case2 p next notices hn =>
    obtain ⟨hx, -, hf, hq⟩ := hn ▸ nextFrame_takes h
    have hnext : next = p := hq
    rw [hnext]
    exact ⟨h, rfl, hf.symm, hf⟩
  | case3 p e next notices hn =>
    obtain ⟨hx, hp, hf, hcount⟩ := hn ▸ nextFrame_takes h
    have hleft : next.framesLeft = p.framesLeft := hf
    exact ⟨hx, hp, [], by rw [hleft, List.nil_append], hcount⟩

/-! ## A framed payload as a stock -/

theorem honest_pull (size : Nat) (p : Framed σ) (h : p.Exact) : (p.pull size).next.Exact :=
  (readSized_takes size h).1

theorem takes_pull (size : Nat) (p : Framed σ) (h0 : 0 < size) (h : p.Exact) :
    (p.pull size).Takes remaining p.remaining := by
  have ht := (readSized_takes size h).2
  refine Outcome.takes_of_read ?_ (readSized_empty h0 h) ?_
  · intro bs hr
    rw [hr] at ht
    rw [ht.1, ht.2, List.take_append_drop]
  · intro e hr
    rw [hr] at ht
    exact ht

instance : Stock (Framed σ) := ⟨remaining, Exact, honest_pull, takes_pull⟩

end SigV4.Framed

namespace SigV4.Layer

/-- Every layer is a stock: framed payloads can be framed again and NOTHING IS LOST. -/
instance stock : (n : Nat) → Stock (Layer n)
  | 0 => inferInstanceAs (Stock Feed)
  | n + 1 =>
    have : Stock (Layer n) := stock n
    inferInstanceAs (Stock (Framed (Layer n)))

end SigV4.Layer
