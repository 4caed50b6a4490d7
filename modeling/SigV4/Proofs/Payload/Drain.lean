/-
  DRAINING a source, and doing it AGAIN.

  1. **Loops** — what every pull keeps, draining keeps (`drain_keeps`).
  2. **What draining changes** — of a buffer the position, of pieces their number, of a stream the
     position and the records.  `Source.Moved` says so; put back to its old position, a source is what it
     was, but for a stream's records.
  3. **Again** — a source that is put back yields THE SAME BYTES (`drain_again`).  A stream decides by the
     number of a read what it delivers and whether it fails, so it has to be `Repeatable`; of the
     others nothing is asked.
-/
import SigV4.Payload.Reader
import SigV4.Proofs.Payload.Stock
import SigV4.Signing.PayloadHash

namespace SigV4

/-! ## Loops -/

namespace Supply

variable {σ : Type} [Supply σ]

/-- One turn of `drain`, by the parts of an outcome. -/
theorem drain_eq (size : Nat) (s : σ) :
    drain size s = match (pull size s).result with
      | .ok (some bs) =>
        ((drain size (pull size s).next).map (bs :: ·)).after (pull size s).notices
      | .ok none => ⟨.ok [], (pull size s).next, (pull size s).notices⟩
      | .error e => ⟨.error e, (pull size s).next, (pull size s).notices⟩ := by
  rw [drain]
  split
  · rename_i hp
    rw [hp]
  · rename_i hp
    rw [hp]
  · rename_i hp
    rw [hp]

theorem drain_keeps {size : Nat} (I : σ → Prop) (hI : ∀ s, I s → I (pull size s).next) {s : σ}
    (h : I s) : I (drain size s).next := by
  fun_induction drain size s with
  | case1 s bs next notices hp ih =>
    have hn := hI s h
    rw [hp] at hn
    exact ih hn
  | case2 s next notices hp =>
    have hn := hI s h
    rw [hp] at hn
    exact hn
  | case3 s e next notices hp =>
    have hn := hI s h
    rw [hp] at hn
    exact hn

end Supply

/-! ## What draining changes -/

/-- A stream that does not fail, and that delivers nothing either always or only at its end. -/
def Stream.Repeatable (s : Stream) : Prop :=
  s.Unfailing ∧ ∀ j k, s.limit j = some 0 → s.limit k = some 0

namespace Source

/-- `t` is `s` at some other place: seeking makes `s` of it again, but for the records of a stream. -/
def Moved (s t : Source) : Prop :=
  match s, t with
  | buffer b, buffer c => c.seek b.pos = b
  | stream a, stream c => c.data = a.data ∧ c.limit = a.limit ∧ c.fails = a.fails
      ∧ c.access = a.access ∧ c.seeking = a.seeking
  | pieces p, pieces q => q.seek p.pulled = p
  | _, _ => False

/-- What a source is that was moved, by its kind. -/
theorem moved_buffer {b : Buffer} {t : Source} (h : (buffer b).Moved t) :
    ∃ pos, t = buffer (b.seek pos) := by
  cases t with
  | buffer c =>
    have hb : c.seek b.pos = b := h
    refine ⟨c.pos, ?_⟩
    rw [← hb]
    rfl
  | _ => exact h.elim

theorem moved_stream {a : Stream} {t : Source} (h : (stream a).Moved t) :
    ∃ c, t = stream c ∧ c.data = a.data ∧ c.limit = a.limit ∧ c.fails = a.fails
      ∧ c.access = a.access ∧ c.seeking = a.seeking := by
  cases t with
  | stream c => exact ⟨c, rfl, h⟩
  | _ => exact h.elim

theorem moved_pieces {p : Pieces} {t : Source} (h : (pieces p).Moved t) :
    ∃ pulled, t = pieces (p.seek pulled) := by
  cases t with
  | pieces q =>
    have hp : q.seek p.pulled = p := h
    refine ⟨q.pulled, ?_⟩
    rw [← hp]
    rfl
  | _ => exact h.elim

theorem moved_refl (s : Source) : s.Moved s := by
  cases s with
  | buffer b => rfl
  | stream a => exact ⟨rfl, rfl, rfl, rfl, rfl⟩
  | pieces p => rfl

theorem moved_pull (size : Nat) {s t : Source} (h : s.Moved t) : s.Moved (t.pull size).next := by
  cases s with
  | buffer b =>
    obtain ⟨pos, rfl⟩ := moved_buffer h
    simp only [pull]
    split
    · rename_i bs next hr
      obtain ⟨-, hn, -⟩ := Buffer.read_eq_ok hr
      show next.seek b.pos = b
      rw [hn]
      rfl
    · exact h
  | stream a =>
    obtain ⟨c, rfl, h1, h2, h3, h4, h5⟩ := moved_stream h
    obtain ⟨hlimit, hfails, hdata, haccess, hseeking⟩ := c.read_keeps (some (size : Int))
    exact ⟨hdata.trans h1, hlimit.trans h2, hfails.trans h3, haccess.trans h4, hseeking.trans h5⟩
  | pieces p =>
    obtain ⟨pulled, rfl⟩ := moved_pieces h
    show ((p.seek pulled).pull.next).seek p.pulled = p
    obtain ⟨-, hpull⟩ | ⟨part, -, -, hpull⟩ | ⟨-, -, hpull⟩ := (p.seek pulled).pull_cases
    · rw [hpull]
      rfl
    · rw [hpull]
      rfl
    · rw [hpull]
      rfl

theorem moved_drain (size : Nat) (s : Source) : s.Moved (Supply.drain size s).next :=
  Supply.drain_keeps (fun t => s.Moved t) (fun _ ht => moved_pull size ht) s.moved_refl

/-- A source that was moved and is put back is still one that was moved. -/
theorem moved_backTo {s t : Source} (h : s.Moved t) : s.Moved (PayloadHash.backTo s t) := by
  cases s with
  | buffer b =>
    obtain ⟨pos, rfl⟩ := moved_buffer h
    exact h
  | stream a =>
    obtain ⟨c, rfl, hc⟩ := moved_stream h
    exact hc
  | pieces p =>
    obtain ⟨pulled, rfl⟩ := moved_pieces h
    exact h

/-! ## Again -/

/-- A source that yields the same bytes whenever it is read from one place. -/
def Repeatable : Source → Prop
  | stream s => s.Repeatable
  | _ => True

/-- A stream that never delivers anything is drained at once. -/
theorem drain_mute (size : Nat) {s : Stream} (hs : s.Unfailing)
    (hmute : ∀ k, s.limit k = some 0) : (Supply.drain size (stream s)).result = .ok [] := by
  have hpull : (Supply.pull size (stream s)).result = .ok none := by
    have hf : ¬s.fails s.readNumber = true := by
      rw [hs]
      decide
    show (s.read (some (size : Int))).1.map Bytes.nonempty? = .ok none
    simp only [Stream.read, if_neg hf, Stream.portion, hmute, List.take_zero]
    rfl
  rw [Supply.drain_eq, hpull]

/-- An honest stream that does not fail is drained to its end. -/
theorem drain_honest {size : Nat} (h0 : 0 < size) {s : Stream} (hs : s.Unfailing)
    (hhonest : s.Honest) :
    ∃ blocks, (Supply.drain size (stream s)).result = .ok blocks ∧ blocks.flatten = s.rest := by
  have hu : (stream s).Unfailing size := hs
  have hh : Stock.Honest (stream s) := hhonest
  obtain ⟨blocks, hb⟩ := steady_of_unfailing hu
  exact ⟨blocks, hb, Supply.flatten_drain h0 hh hb⟩

/-- **A stream that is put back yields the same bytes.** -/
theorem drain_stream_again {size : Nat} (h0 : 0 < size) {a c : Stream} (ha : a.Repeatable)
    (hdata : c.rest = a.rest) (hlimit : c.limit = a.limit) (hfails : c.fails = a.fails)
    {blocks : List Bytes} (h : (Supply.drain size (stream a)).result = .ok blocks) :
    ∃ again, (Supply.drain size (stream c)).result = .ok again
      ∧ again.flatten = blocks.flatten := by
  obtain ⟨hunfailing, hmute⟩ := ha
  have hc : c.Unfailing := by
    intro k
    rw [hfails]
    exact hunfailing k
  by_cases hm : ∃ j, a.limit j = some 0
  · -- a stream that is mute at one read is mute at all of them
    obtain ⟨j, hj⟩ := hm
    have hall : ∀ k, a.limit k = some 0 := fun k => hmute j k hj
    rw [drain_mute size hunfailing hall] at h
    exact ⟨[], drain_mute size hc (hlimit ▸ hall), by rw [← Except.ok.inj h]⟩
  · -- any other one is read to its end both times
    have hhonest : a.Honest := fun j hj => hm ⟨j, hj⟩
    obtain ⟨first, hfirst, hrest⟩ := drain_honest h0 hunfailing hhonest
    have hhonest' : c.Honest := by
      intro k
      rw [hlimit]
      exact hhonest k
    obtain ⟨again, hagain, hrest'⟩ := drain_honest h0 hc hhonest'
    rw [hfirst] at h
    rw [← Except.ok.inj h]
    exact ⟨again, hagain, by rw [hrest', hrest, hdata]⟩

/-- **A source that is put back yields the same bytes.** -/
theorem drain_again {size : Nat} (h0 : 0 < size) {s : Source} (hs : s.Repeatable)
    {blocks : List Bytes} (h : (Supply.drain size s).result = .ok blocks) :
    ∃ again, (Supply.drain size (PayloadHash.backTo s (Supply.drain size s).next)).result = .ok again
      ∧ again.flatten = blocks.flatten := by
  have hm := moved_drain size s
  cases s with
  | buffer b =>
    obtain ⟨pos, hnext⟩ := moved_buffer hm
    rw [hnext]
    exact ⟨blocks, h, rfl⟩
  | stream a =>
    obtain ⟨c, hnext, hdata, hlimit, hfails, -, -⟩ := moved_stream hm
    have hrest : (c.seek a.pos).rest = a.rest := congrArg (List.drop a.pos) hdata
    rw [hnext]
    exact drain_stream_again h0 hs hrest hlimit hfails h
  | pieces p =>
    obtain ⟨pulled, hnext⟩ := moved_pieces hm
    rw [hnext]
    exact ⟨blocks, h, rfl⟩

end Source

end SigV4
