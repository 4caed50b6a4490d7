/-
  MISDECLARED PAYLOADS: what comes of a framed payload whose length is NOT THE DECLARED ONE.

  1. **The view** — `Astray` says how far such a payload has come: which of its slices have been signed,
     and that those which were read beyond the declared length have been refused.  None of the slices
     that are signed is empty, so the empty chunk is never signed.
  2. **Overdue** — once the payload is at its end, or has gone beyond the declared length, no frame can
     be made any more, and it stays so.
  3. **One frame** (`nextFrame_strays`) — a slice is signed, or the call fails; and if the feed does not
     fail, it is the length that is complained of, and the payload is overdue.
  4. **Reading** — a read by size delivers what was asked for or fails; a whole iteration fails.

  The crux is that whatever was delivered, and whatever is pending, WAS SIGNED; what was signed is within
  the declared length; so there is always less than was announced, by the empty chunk at least.
-/
import Mathlib.Data.List.Perm.Subperm
import SigV4.Proofs.Payload.Contents
import SigV4.Proofs.Payload.WireLength

namespace SigV4

/-- The complaint that a payload is not as long as declared. -/
def Fault.BlamesLength (declared : Int) (e : Fault) : Prop :=
  ∃ read : Nat, (read : Int) ≠ declared
    ∧ (e = .payloadTooShort declared read ∨ e = .payloadTooLong declared read)

namespace Framing

/-- The first slices of a payload are the slices of a first part of it. -/
theorem eq_slices_of_prefix {size : Nat} (h0 : 0 < size) {payload : Bytes} {parts more : List Bytes}
    (h : slices size payload = parts ++ more) : parts = slices size parts.flatten := by
  have hcut : IsCut size payload (parts ++ more) := h ▸ isCut_slices h0 payload
  exact hcut.of_append.eq_slices h0

end Framing

namespace ChunkSigner

/-- Some chunks on the wire. -/
def wireOf (s : ChunkSigner) (chunks : List Bytes) : Bytes :=
  (Framing.row s.key s.timestamp s.scope s.previous chunks).flatten

/-- One more chunk is signed behind those before it. -/
theorem wireOf_concat (s : ChunkSigner) (chunks : List Bytes) (chunk : Bytes) :
    s.wireOf (chunks ++ [chunk])
      = s.wireOf chunks ++ frame ((chunks.foldl advance s).signatureOf chunk) chunk := by
  induction chunks generalizing s with
  | nil => simp [wireOf, Framing.row_cons, Framing.row]
  | cons first chunks ih =>
    have hrest : (Framing.row s.key s.timestamp s.scope (s.advance first).previous
        (chunks ++ [chunk])).flatten = _ := ih (s.advance first)
    rw [List.cons_append, wireOf, wireOf, Framing.row_cons, Framing.row_cons, List.flatten_cons,
      List.flatten_cons, hrest, List.append_assoc]
    rfl

/-- Slices on the wire take as much room as a row of them. -/
theorem length_wireOf_slices (s : ChunkSigner) {size : Nat} (h0 : 0 < size) (payload : Bytes) :
    (s.wireOf (Framing.slices size payload)).length = Framing.rowLength size payload.length := by
  rw [wireOf, Framing.length_row, Framing.sum_slices h0]

end ChunkSigner

/-- A payload and a length that is declared for it BUT IS NOT ITS OWN; how it is to be cut and signed. -/
structure Misdeclared where
  signer : ChunkSigner
  payload : Bytes
  size : Nat
  declared : Int
  positive : 0 < size
  wrong : (payload.length : Int) ≠ declared

namespace Framed

variable {σ : Type} [Supply σ] [Stock σ] {m : Misdeclared}

/-! ## The view -/

/-- **How far a misdeclared payload has come:** `parts` have been signed, `refused` were read beyond the
declared length. -/
structure Astray (m : Misdeclared) (parts refused : List Bytes) (p : Framed σ) : Prop where
  sound : p.Sound
  cutSize : p.cutSize = m.size
  declared : p.declared = m.declared
  signer : p.signer = parts.foldl ChunkSigner.advance m.signer
  unended : p.signer.state ≠ .terminal
  within : (parts.flatten.length : Int) ≤ m.declared
  cut : Framing.slices m.size m.payload
    = parts ++ refused ++ Framing.slices m.size p.unframed
  count : p.bytesRead = (parts ++ refused).flatten.length
  beyond : refused ≠ [] → m.declared < p.bytesRead

/-- No frame can be made any more. -/
def Overdue (p : Framed σ) : Prop := p.unframed = [] ∨ p.declared < p.bytesRead

/-- What was read and what is left is the payload. -/
theorem Astray.length {parts refused : List Bytes} {p : Framed σ} (h : p.Astray m parts refused) :
    p.bytesRead + p.unframed.length = m.payload.length := by
  have hcut := congrArg (fun parts => parts.flatten.length) h.cut
  simp only [List.flatten_append, List.length_append] at hcut
  rw [(Framing.isCut_slices m.positive _).flatten_eq,
    (Framing.isCut_slices m.positive _).flatten_eq] at hcut
  rw [h.count, List.flatten_append, List.length_append]
  omega

/-- At its end, a misdeclared payload has not been read as far as declared. -/
theorem Astray.ne_declared {parts refused : List Bytes} {p : Framed σ} (h : p.Astray m parts refused)
    (hend : p.unframed = []) : (p.bytesRead : Int) ≠ m.declared := by
  have hlen := h.length
  rw [hend, List.length_nil, Nat.add_zero] at hlen
  rw [hlen]
  exact m.wrong

/-- The bytes that were signed are the first of the payload. -/
theorem Astray.isPrefix {parts refused : List Bytes} {p : Framed σ} (h : p.Astray m parts refused) :
    parts.flatten <+: m.payload := by
  have hcut := congrArg List.flatten h.cut
  rw [(Framing.isCut_slices m.positive _).flatten_eq, List.flatten_append, List.flatten_append,
    List.append_assoc] at hcut
  exact ⟨_, hcut.symm⟩

theorem Filled.astray {parts refused : List Bytes} {p q : Framed σ} (h : Filled p q)
    (hp : p.Astray m parts refused) : q.Astray m parts refused where
  sound := h.sound
  cutSize := h.cutSize.trans hp.cutSize
  declared := h.declared.trans hp.declared
  signer := h.signer.trans hp.signer
  unended := h.signer ▸ hp.unended
  within := hp.within
  cut := h.unframed ▸ hp.cut
  count := h.bytesRead.trans hp.count
  beyond := h.bytesRead ▸ hp.beyond

/-! ## One frame -/

/-- Only a slice that is not empty, and not beyond the declared length, is signed. -/
theorem Astray.made {parts refused : List Bytes} {p q : Framed σ} (h : p.Astray m parts refused)
    (filled : Filled p q) (slice : q.chunk = p.unframed.take p.cutSize)
    (right : q.dropChunk.lengthFault? q.chunk = none) :
    ¬p.Overdue ∧ Astray m (parts ++ [q.chunk]) []
      { q.dropChunk with signer := p.signer.advance q.chunk } := by
  have hread := bytesRead_dropChunk filled
  have hdeclared : q.dropChunk.declared = m.declared := filled.declared.trans h.declared
  have hend := chunk_eq_nil_iff h.sound slice
  rw [lengthFault?, hdeclared, hread] at right
  -- neither of the two complaints was made
  have hlong : ¬((p.bytesRead + q.chunk.length : Nat) : Int) > m.declared := by
    intro hgt
    rw [if_pos hgt] at right
    split at right <;> cases right
  have hshort : q.chunk ≠ [] := by
    intro hempty
    have hne := h.ne_declared (hend.mp hempty)
    rw [hempty, List.isEmpty_nil, List.length_nil, Nat.add_zero, if_pos ⟨rfl, hne⟩] at right
    cases right
  have hrefused : refused = [] := by
    refine Decidable.of_not_not fun hr => ?_
    have := h.beyond hr
    omega
  subst hrefused
  have hleft : p.unframed ≠ [] := fun hu => hshort (hend.mpr hu)
  have hcut := h.cut
  have hcount := h.count
  rw [List.append_nil] at hcut hcount
  refine ⟨?_, ⟨filled.sound.positive, filled.sound.honest, filled.sound.exhausted⟩,
    filled.cutSize.trans h.cutSize, hdeclared, ?_, ?_, ?_, ?_, ?_, ?_⟩
  · rintro (hu | hgt)
    · exact hleft hu
    · rw [h.declared] at hgt
      omega
  · rw [List.foldl_append, ← h.signer]
    rfl
  · show (if q.chunk.isEmpty then ChunkState.terminal else .signing) ≠ .terminal
    rw [if_neg (by simpa using hshort)]
    decide
  · rw [List.flatten_append, List.length_append, ← hcount]
    simpa using Int.not_lt.mp hlong
  · show _ = parts ++ [q.chunk] ++ [] ++ Framing.slices m.size q.dropChunk.unframed
    rw [unframed_dropChunk filled slice, slice, hcut, Framing.slices_cons m.positive hleft,
      h.cutSize]
    simp
  · show q.dropChunk.bytesRead = _
    rw [hread, hcount]
    simp
  · exact fun hr => absurd rfl hr

/-- A slice that was not signed is one more that was refused, if it has bytes and they are too many. -/
theorem Astray.drop {parts refused : List Bytes} {p q : Framed σ} (h : p.Astray m parts refused)
    (filled : Filled p q) (slice : q.chunk = p.unframed.take p.cutSize) (hleft : p.unframed ≠ [])
    (hlong : m.declared < (q.dropChunk.bytesRead : Int)) :
    q.dropChunk.Astray m parts (refused ++ [q.chunk]) := by
  have hq := filled.astray h
  refine ⟨hq.sound.dropChunk, hq.cutSize, hq.declared, hq.signer, hq.unended, hq.within, ?_, ?_,
    fun _ => hlong⟩
  · rw [unframed_dropChunk filled slice, slice, h.cut, Framing.slices_cons m.positive hleft,
      h.cutSize]
    simp
  · rw [bytesRead_dropChunk filled, h.count]
    simp [Nat.add_assoc]

/-- At the end nothing is dropped. -/
theorem Astray.drop_nil {parts refused : List Bytes} {p q : Framed σ} (h : p.Astray m parts refused)
    (filled : Filled p q) (slice : q.chunk = p.unframed.take p.cutSize) (hend : p.unframed = []) :
    q.dropChunk.unframed = [] ∧ q.dropChunk.bytesRead = p.bytesRead
      ∧ q.dropChunk.Astray m parts refused := by
  have hq := filled.astray h
  have hnil : q.dropChunk.unframed = [] := by
    rw [unframed_dropChunk filled slice, hend, List.drop_nil]
  have hread : q.dropChunk.bytesRead = p.bytesRead := by
    rw [bytesRead_dropChunk filled, (chunk_eq_nil_iff h.sound slice).mpr hend]
    rfl
  refine ⟨hnil, hread, hq.sound.dropChunk, hq.cutSize, hq.declared, hq.signer, hq.unended,
    hq.within, ?_, hread.trans h.count, hread ▸ h.beyond⟩
  rw [hnil, ← hend]
  exact h.cut

/-- A slice that shows the wrong length is refused; and so is every other from then on. -/
theorem Astray.refused {parts refused : List Bytes} {p q : Framed σ} (h : p.Astray m parts refused)
    (filled : Filled p q) (slice : q.chunk = p.unframed.take p.cutSize) {e : Fault}
    (wrong : q.dropChunk.lengthFault? q.chunk = some e) :
    e.BlamesLength m.declared ∧ q.dropChunk.Overdue
      ∧ ∃ refused', q.dropChunk.Astray m parts refused' := by
  have hdeclared : q.dropChunk.declared = m.declared := filled.declared.trans h.declared
  have hend := chunk_eq_nil_iff h.sound slice
  rw [lengthFault?, hdeclared] at wrong
  by_cases hempty : q.chunk = []
  · obtain ⟨hnil, hread, hdrop⟩ := h.drop_nil filled slice (hend.mp hempty)
    have hne := h.ne_declared (hend.mp hempty)
    rw [hread, hempty, if_pos ⟨rfl, hne⟩] at wrong
    exact ⟨⟨p.bytesRead, hne, Or.inl (Option.some.inj wrong).symm⟩, Or.inl hnil, refused, hdrop⟩
  · -- the slice has bytes, so it can only be too long
    have hne : q.chunk.isEmpty = false := by simpa using hempty
    rw [hne, if_neg (by simp)] at wrong
    have hlong : m.declared < (q.dropChunk.bytesRead : Int) := by
      refine Decidable.of_not_not fun hle => ?_
      rw [if_neg hle] at wrong
      cases wrong
    rw [if_pos hlong] at wrong
    exact ⟨⟨_, by omega, Or.inr (Option.some.inj wrong).symm⟩, Or.inr (hdeclared ▸ hlong),
      refused ++ [q.chunk], h.drop filled slice (fun hu => hempty (hend.mpr hu)) hlong⟩

/-- **A misdeclared payload of which the framed bytes `spent` are gone:** they and those that are pending
are bytes of frames that were signed. -/
def Strays (m : Misdeclared) (spent : Bytes) (p : Framed σ) : Prop :=
  ∃ parts refused, p.Astray m parts refused
    ∧ List.Subperm (spent ++ p.pending) (m.signer.wireOf parts)

/-- What a payload keeps from then on: that no frame can be made any more, and that its feed does not
fail. -/
structure Follows (p q : Framed σ) : Prop where
  overdue : p.Overdue → q.Overdue
  steady : p.Steady → q.Steady

/-- A failure for which the feed is not to blame. -/
def Complains (m : Misdeclared) (p q : Framed σ) (e : Fault) : Prop :=
  p.Steady → e.BlamesLength m.declared ∧ q.Overdue

theorem Follows.refl (p : Framed σ) : Follows p p := ⟨id, id⟩

theorem Follows.trans {p q r : Framed σ} (h : Follows p q) (h' : Follows q r) : Follows p r :=
  ⟨h'.overdue ∘ h.overdue, h'.steady ∘ h.steady⟩

theorem Complains.of_follows {p q r : Framed σ} {e : Fault} (h : Follows p q)
    (h' : Complains m q r e) : Complains m p r e :=
  fun hs => h' (h.steady hs)

/-- Pending bytes may change hands or be lost, as long as there do not get more of them. -/
theorem Strays.pend {spent spent' : Bytes} {p : Framed σ} (h : p.Strays m spent) {pending : Bytes}
    (hle : List.Subperm (spent' ++ pending) (spent ++ p.pending)) :
    Strays m spent' { p with pending := pending } := by
  obtain ⟨parts, refused, ha, hsigned⟩ := h
  refine ⟨parts, refused, ⟨⟨ha.sound.positive, ha.sound.honest, ha.sound.exhausted⟩, ha.cutSize,
    ha.declared, ha.signer, ha.unended, ha.within, ha.cut, ha.count, ha.beyond⟩, ?_⟩
  exact hle.trans hsigned

/-- What is signed of a misdeclared payload leaves no room for the empty chunk. -/
theorem Strays.less {spent : Bytes} {p : Framed σ} (h : p.Strays m spent) {n : Nat}
    (hn : m.declared = (n : Int)) :
    spent.length < Framing.rowLength m.size n + Framing.frameLength 0 := by
  obtain ⟨parts, refused, ha, hsigned⟩ := h
  have hroom := hsigned.length_le
  have hcut : parts = Framing.slices m.size parts.flatten :=
    Framing.eq_slices_of_prefix m.positive (ha.cut.trans (List.append_assoc _ _ _))
  rw [hcut, ChunkSigner.length_wireOf_slices _ m.positive, List.length_append] at hroom
  have hwithin : parts.flatten.length ≤ n := by
    have := ha.within
    omega
  have hle := Framing.rowLength_le m.positive hwithin
  have hpos : 0 < Framing.frameLength 0 := by decide
  omega

/-- A frame that was signed may be lost. -/
theorem Strays.lose {spent frame : Bytes} {p : Framed σ} (h : p.Strays m (spent ++ frame)) :
    p.Strays m spent :=
  h.pend ((List.subperm_append_right p.pending).mpr (List.sublist_append_left spent frame).subperm)

theorem Follows.pend (p : Framed σ) (pending : Bytes) :
    Follows p { p with pending := pending } := ⟨id, id⟩

omit [Stock σ] in
theorem fill_steady_of_fill_eq {p q : Framed σ} (h : p.fill.next = q) (hs : p.Steady) :
    q.Steady :=
  h ▸ (fill_steady hs).2

/-- **Everything that asking a misdeclared payload for a frame can do.** -/
theorem nextFrame_strays {spent : Bytes} {p : Framed σ} (h : p.Strays m spent) :
    Follows p p.nextFrame.next ∧ p.nextFrame.next.pending = p.pending
      ∧ match p.nextFrame.result with
        | .ok (some frame) => ¬p.Overdue ∧ p.nextFrame.next.Strays m (spent ++ frame)
        | .ok none => False
        | .error e => p.nextFrame.next.Strays m spent ∧ Complains m p p.nextFrame.next e := by
  obtain ⟨parts, refused, ha, hsigned⟩ := h
  cases asked_nextFrame ha.sound with
  | ended state result next => exact absurd state ha.unended
  | failed e state fill filled result =>
    rw [result]
    have hnosteady : ¬p.Steady := by
      intro hs
      obtain ⟨⟨u, hu⟩, -⟩ := fill_steady hs
      rw [hu] at fill
      cases fill
    refine ⟨⟨?_, fun hs => absurd hs hnosteady⟩, filled.pending,
      ⟨parts, refused, filled.astray ha, filled.pending ▸ hsigned⟩, fun hs => absurd hs hnosteady⟩
    rintro (hu | hgt)
    · exact Or.inl (filled.unframed.trans hu)
    · exact Or.inr (filled.declared ▸ filled.bytesRead ▸ hgt)
  | refused q e state fill filled slice wrong result next =>
    obtain ⟨hblame, hover, refused', ha'⟩ := ha.refused filled slice wrong
    have hsteady : p.Steady → q.Steady := fill_steady_of_fill_eq fill
    have hpending : q.dropChunk.pending = p.pending := filled.pending
    rw [result, next]
    exact ⟨⟨fun _ => hover, hsteady⟩, hpending, ⟨parts, refused', ha', hpending ▸ hsigned⟩,
      fun _ => ⟨hblame, hover⟩⟩
  | made q state fill filled slice right result next =>
    obtain ⟨hover, ha'⟩ := ha.made filled slice right
    have hsteady : p.Steady → q.Steady := fill_steady_of_fill_eq fill
    rw [result, next]
    refine ⟨⟨fun ho => absurd ho hover, hsteady⟩, filled.pending, hover,
      parts ++ [q.chunk], [], ha', ?_⟩
    -- the frame may be handed out before what is pending
    have hpending : q.pending = p.pending := filled.pending
    have hswap (frame : Bytes) :
        List.Perm (spent ++ frame ++ p.pending) (spent ++ p.pending ++ frame) := by
      rw [List.append_assoc, List.append_assoc]
      exact List.perm_append_comm.append_left spent
    show List.Subperm (spent ++ _ ++ q.pending) (m.signer.wireOf (parts ++ [q.chunk]))
    rw [hpending, ChunkSigner.wireOf_concat, ← ha.signer]
    exact (hswap _).subperm.trans ((List.subperm_append_right _).mpr hsigned)

/-- An overdue payload makes no frame. -/
theorem nextFrame_overdue {spent : Bytes} {p : Framed σ} (h : p.Strays m spent) (ho : p.Overdue) :
    ∃ e, p.nextFrame.result = .error e ∧ (p.Steady → e.BlamesLength m.declared) := by
  obtain ⟨-, -, hr⟩ := nextFrame_strays h
  cases hn : p.nextFrame.result with
  | error e =>
    rw [hn] at hr
    exact ⟨e, rfl, fun hs => (hr.2 hs).1⟩
  | ok item =>
    rw [hn] at hr
    cases item with
    | none => exact hr.elim
    | some frame => exact absurd ho hr.1

/-! ## Reading -/

/-- Gathering ends with enough bytes, or fails. -/
theorem gather_strays (size : Nat) {spent : Bytes} {p : Framed σ} (h : p.Strays m spent) :
    Follows p (gather size p).next ∧ (gather size p).next.Strays m spent
      ∧ match (gather size p).result with
        | .ok () => size ≤ (gather size p).next.pending.length
        | .error e => Complains m p (gather size p).next e := by
  fun_induction gather size p with
  | case1 p hl => exact ⟨.refl p, h, hl⟩
  | case2 p hl frame next notices hn ih =>
    obtain ⟨hf, hpend, hr⟩ := hn ▸ nextFrame_strays h
    have hpending : next.pending = p.pending := hpend
    have hkeep : (next.keep frame).Strays m spent := by
      refine hr.2.pend ?_
      rw [List.append_assoc]
      exact ((List.perm_append_comm).append_left spent).subperm
    obtain ⟨hf', hs, hres⟩ := ih hkeep
    have hstep : Follows p (next.keep frame) := Follows.trans hf (Follows.pend next _)
    refine ⟨hstep.trans hf', hs, ?_⟩
    show match (gather size (next.keep frame)).result with
      | .ok () => _
      | .error e => _
    cases hg : (gather size (next.keep frame)).result with
    | ok u =>
      rw [hg] at hres
      exact hres
    | error e =>
      rw [hg] at hres
      exact Complains.of_follows hstep hres
  | case3 p hl next notices hn =>
    obtain ⟨-, -, hr⟩ := hn ▸ nextFrame_strays h
    exact hr.elim
  | case4 p hl e next notices hn =>
    obtain ⟨hf, -, hr⟩ := hn ▸ nextFrame_strays h
    exact ⟨hf, hr.1, hr.2⟩

/-- **A read by size delivers as many bytes as were asked for, OR FAILS:** it never finds an end. -/
theorem readSized_strays (size : Nat) {spent : Bytes} {p : Framed σ} (h : p.Strays m spent) :
    Follows p (p.readSized size).next
      ∧ match (p.readSized size).result with
        | .ok bs => bs.length = size ∧ (p.readSized size).next.Strays m (spent ++ bs)
        | .error e => (p.readSized size).next.Strays m spent
            ∧ Complains m p (p.readSized size).next e := by
  obtain ⟨hf, hs, hr⟩ := gather_strays size h
  unfold readSized Outcome.andThen
  cases hg : (gather size p).result with
  | error e =>
    rw [hg] at hr
    exact ⟨hf, hs, hr⟩
  | ok u =>
    rw [hg] at hr
    have hlen : ((gather size p).next.pending.take size).length = size := by
      rw [List.length_take]
      exact Nat.min_eq_left hr
    refine ⟨hf.trans (Follows.pend _ _), hlen, hs.pend ?_⟩
    rw [List.append_assoc, List.take_append_drop]

/-- **An iteration over all frames NEVER COMES TO AN END:** it fails. -/
theorem frames_strays {spent : Bytes} {p : Framed σ} (h : p.Strays m spent) :
    ∃ e, (frames p).result = .error e ∧ Follows p (frames p).next
      ∧ (frames p).next.Strays m spent ∧ Complains m p (frames p).next e := by
  fun_induction frames p with
  | case1 p frame next notices hn ih =>
    obtain ⟨hf, -, hr⟩ := hn ▸ nextFrame_strays h
    obtain ⟨e, he, hf', hs, hc⟩ := ih hr.2.lose
    refine ⟨e, ?_, Follows.trans hf hf', hs, Complains.of_follows hf hc⟩
    simp [he, Except.map]
  | case2 p next notices hn =>
    obtain ⟨-, -, hr⟩ := hn ▸ nextFrame_strays h
    exact hr.elim
  | case3 p e next notices hn =>
    obtain ⟨hf, -, hr⟩ := hn ▸ nextFrame_strays h
    exact ⟨e, rfl, hf, hr.1, hr.2⟩

/-- Nor does a whole iteration, or a read of everything. -/
theorem items_strays {spent : Bytes} {p : Framed σ} (h : p.Strays m spent) :
    ∃ e, p.items.result = .error e ∧ Follows p p.items.next
      ∧ p.items.next.Strays m spent ∧ Complains m p p.items.next e := by
  have hnone : Strays m spent { p with pending := [] } := by
    refine h.pend ?_
    rw [List.append_nil]
    exact (List.sublist_append_left spent p.pending).subperm
  obtain ⟨e, he, hf, hs, hc⟩ := frames_strays hnone
  have hstep := Follows.pend p []
  refine ⟨e, ?_, hstep.trans hf, hs, Complains.of_follows hstep hc⟩
  rw [items, Outcome.result_map, he]
  rfl

/-! ## Less than no bytes -/

/-- A payload that is declared to have LESS THAN NO BYTES has no frame at all. -/
theorem nextFrame_negative {p : Framed σ} (h : p.Sound) (hstate : p.signer.state ≠ .terminal)
    (hneg : p.declared < 0) (hs : p.Steady) :
    ∃ e, p.nextFrame.result = .error e ∧ e.BlamesLength p.declared := by
  have hlong (q : Framed σ) (hq : Filled p q) : q.dropChunk.declared = p.declared
      ∧ (q.dropChunk.bytesRead : Int) > p.declared :=
    ⟨hq.declared, by omega⟩
  cases asked_nextFrame h with
  | ended state result next => exact absurd state hstate
  | failed e state fill filled result =>
    obtain ⟨⟨u, hu⟩, -⟩ := fill_steady hs
    rw [hu] at fill
    cases fill
  | refused q e state fill filled slice wrong result next =>
    obtain ⟨hdeclared, hgt⟩ := hlong q filled
    rw [lengthFault?, hdeclared, if_pos hgt] at wrong
    refine ⟨e, result, q.dropChunk.bytesRead, by omega, ?_⟩
    split at wrong
    · exact Or.inl (Option.some.inj wrong).symm
    · exact Or.inr (Option.some.inj wrong).symm
  | made q state fill filled slice right result next =>
    obtain ⟨hdeclared, hgt⟩ := hlong q filled
    rw [lengthFault?, hdeclared, if_pos hgt] at right
    split at right
    · cases right
    · cases right

end Framed

end SigV4
