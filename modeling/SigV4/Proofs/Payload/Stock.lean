/-
  STOCKS: supplies of which it is known WHAT IS LEFT.

  `Supply.weight` only bounds what a supply can still deliver.  Here it is said which bytes they are.

  1. **The law of a pull** (`Outcome.Takes`) — bytes that are delivered are the first of those that
     are left; the end is found only where nothing is left; a pull that fails takes NOTHING.
  2. **Honesty** — the law needs a supply that does not pretend to be at its end.  For buffers and
     pieces that goes without saying; a stream is honest if none of its limits is zero.
  3. **Steadiness** — a supply is steady if all pulls up to its end succeed, whatever makes them
     succeed.  `steady_of_unfailing` says when a source is steady.

  Main statement: `Supply.flatten_drain`, an honest supply that is drained delivers WHAT IS LEFT.
-/
import SigV4.Payload.Feed

namespace SigV4

/-- The law of an honest pull: what is delivered is taken off what is left, and a failure takes
nothing. -/
def Outcome.Takes {σ : Type} (rest : σ → Bytes) (before : Bytes)
    (o : Outcome σ (Option Bytes)) : Prop :=
  match o.result with
  | .ok (some bs) => bs ++ rest o.next = before
  | .ok none => before = [] ∧ rest o.next = []
  | .error _ => rest o.next = before

/-- A READ THAT TAKES WHAT IT DELIVERS, and is empty only where nothing is left, is a pull that obeys
the law. -/
theorem Outcome.takes_of_read {σ : Type} {rest : σ → Bytes} {before : Bytes} {o : Outcome σ Bytes}
    (hok : ∀ bs, o.result = .ok bs → bs ++ rest o.next = before)
    (hend : o.result = .ok [] → before = [])
    (herr : ∀ e, o.result = .error e → rest o.next = before) :
    (o.map Bytes.nonempty?).Takes rest before := by
  unfold Outcome.Takes
  cases hr : o.result with
  | error e => simpa [Outcome.map, hr, Except.map] using herr e hr
  | ok bs =>
    have hb := hok bs hr
    cases bs with
    | nil =>
      have hn := hend hr
      simp only [Outcome.map, hr, Except.map, Bytes.nonempty?, List.isEmpty_nil, if_true]
      exact ⟨hn, hb.trans hn⟩
    | cons b bs => simpa [Outcome.map, hr, Except.map, Bytes.nonempty?] using hb

/-- **A supply of which it is known what is left.** -/
class Stock (σ : Type) [Supply σ] where
  /-- The bytes that are left. -/
  rest : σ → Bytes
  /-- Whether an end that is found is the end. -/
  Honest : σ → Prop
  honest_pull : ∀ (size : Nat) (s : σ), Honest s → Honest (Supply.pull size s).next
  takes_pull : ∀ (size : Nat) (s : σ), 0 < size → Honest s →
    (Supply.pull size s).Takes rest (rest s)

namespace Supply

variable {σ : Type} [Supply σ]

/-! ## Steadiness -/

/-- A supply whose pulls of one size succeed up to its end. -/
def Steady (size : Nat) (s : σ) : Prop := ∃ blocks, (drain size s).result = .ok blocks

/-- A steady supply delivers or is at its end, and stays steady. -/
theorem Steady.pull {size : Nat} {s : σ} (h : Steady size s) :
    (∃ bs, (Supply.pull size s).result = .ok (some bs) ∧ Steady size (Supply.pull size s).next)
      ∨ (Supply.pull size s).result = .ok none := by
  obtain ⟨blocks, hb⟩ := h
  rw [drain] at hb
  split at hb
  · rename_i bs next notices hp
    rw [hp]
    simp only [Outcome.result_after, Outcome.result_map] at hb
    cases hd : (drain size next).result with
    | error e => simp [hd, Except.map] at hb
    | ok more => exact Or.inl ⟨bs, rfl, more, hd⟩
  · rename_i next notices hp
    exact Or.inr (by rw [hp])
  · simp at hb

/-- WHAT SUCCEEDS AND IS KEPT at each pull makes a supply steady. -/
theorem steady_of_invariant {size : Nat} (I : σ → Prop)
    (hI : ∀ s, I s → (∃ item, (Supply.pull size s).result = .ok item) ∧ I (Supply.pull size s).next)
    {s : σ} (h : I s) : Steady size s := by
  unfold Steady
  fun_induction drain size s with
  | case1 s bs next notices hp ih =>
    have hn := (hI s h).2
    rw [hp] at hn
    obtain ⟨blocks, hb⟩ := ih hn
    exact ⟨bs :: blocks, by simp [hb, Except.map]⟩
  | case2 s next notices hp => exact ⟨[], rfl⟩
  | case3 s e next notices hp =>
    obtain ⟨item, hi⟩ := (hI s h).1
    rw [hp] at hi
    exact nomatch hi

/-! ## Draining -/

variable [Stock σ]

/-- **An honest supply that is drained delivers what is left,** in blocks of any sizes. -/
theorem flatten_drain {size : Nat} (h0 : 0 < size) {s : σ} (hs : Stock.Honest s)
    {blocks : List Bytes} (h : (drain size s).result = .ok blocks) :
    blocks.flatten = Stock.rest s := by
  fun_induction drain size s generalizing blocks with
  | case1 s bs next notices hp ih =>
    have ht := Stock.takes_pull size s h0 hs
    have hn := Stock.honest_pull size s hs
    rw [hp] at ht hn
    simp only [Outcome.result_after, Outcome.result_map] at h
    cases hd : (drain size next).result with
    | error e => simp [hd, Except.map] at h
    | ok more =>
      simp only [hd, Except.map, Except.ok.injEq] at h
      rw [← h, List.flatten_cons, ih hn hd]
      exact ht
  | case2 s next notices hp =>
    have ht := Stock.takes_pull size s h0 hs
    rw [hp] at ht
    simp only [Except.ok.injEq] at h
    rw [← h]
    exact ht.1.symm
  | case3 => simp at h

end Supply

/-! ## Buffers, streams and pieces -/

namespace Buffer

/-- A read delivers the FIRST of the bytes that are left. -/
theorem portion_isPrefix (size : Option Int) (rest : Bytes) : portion size rest <+: rest := by
  unfold portion
  split
  · split
    · exact List.prefix_rfl
    · exact List.take_prefix _ _
  · exact List.prefix_rfl

theorem portion_eq_nil {size : Nat} (h0 : 0 < size) {rest : Bytes}
    (h : portion (some (size : Int)) rest = []) : rest = [] := by
  have hn : ¬(size : Int) < 0 := by omega
  simp only [portion, if_neg hn, Int.toNat_natCast, List.take_eq_nil_iff] at h
  exact h.resolve_left (by omega)

/-- What a read delivers, and that it leaves the rest. -/
theorem read_eq_ok {b next : Buffer} {size : Option Int} {bs : Bytes}
    (h : b.read size = .ok (bs, next)) :
    bs = portion size b.rest ∧ next = { b with pos := b.pos + bs.length }
      ∧ bs ++ next.rest = b.rest := by
  simp only [read] at h
  split at h
  · simp at h
  · split at h
    · simp at h
    · simp only [Except.ok.injEq, Prod.mk.injEq] at h
      obtain ⟨rfl, rfl⟩ := h
      have hp := List.prefix_iff_eq_append.mp (portion_isPrefix size b.rest)
      refine ⟨rfl, rfl, ?_⟩
      rw [rest, List.drop_drop, Nat.add_comm] at hp
      simpa [rest, Nat.add_comm] using hp

end Buffer

namespace Stream

/-- A stream that delivers nothing only at its end. -/
def Honest (s : Stream) : Prop := ∀ k, s.limit k ≠ some 0

/-- A stream whose reads do not fail. -/
def Unfailing (s : Stream) : Prop := ∀ k, s.fails k = false

theorem portion_isPrefix (s : Stream) (size : Option Int) : s.portion size <+: s.rest := by
  unfold portion
  split
  · exact (List.take_prefix _ _).trans (Buffer.portion_isPrefix _ _)
  · exact Buffer.portion_isPrefix _ _

theorem portion_eq_nil {s : Stream} (hs : s.Honest) {size : Nat} (h0 : 0 < size)
    (h : s.portion (some (size : Int)) = []) : s.rest = [] := by
  unfold portion at h
  split at h
  · rename_i n hn
    have hpos : n ≠ 0 := fun e => hs s.readNumber (e ▸ hn)
    exact Buffer.portion_eq_nil h0 ((List.take_eq_nil_iff.mp h).resolve_left hpos)
  · exact Buffer.portion_eq_nil h0 h

/-- What a read delivers, and that it leaves the rest. -/
theorem read_eq_ok {s : Stream} {size : Option Int} {bs : Bytes} (h : (s.read size).1 = .ok bs) :
    bs = s.portion size ∧ bs ++ (s.read size).2.rest = s.rest := by
  by_cases hf : s.fails s.readNumber
  · simp [read, hf] at h
  · simp only [read, if_neg hf, Except.ok.injEq] at h ⊢
    subst h
    refine ⟨rfl, ?_⟩
    -- the position moves by as many bytes as were delivered, however few
    have hp := List.prefix_iff_eq_append.mp (s.portion_isPrefix size)
    rw [rest, List.drop_drop] at hp
    exact hp

/-- A read that fails leaves all that was left. -/
theorem read_eq_error {s : Stream} {size : Option Int} {e : Fault}
    (h : (s.read size).1 = .error e) : (s.read size).2.rest = s.rest := by
  by_cases hf : s.fails s.readNumber
  · simp [read, hf, rest, noteRead]
  · simp [read, hf] at h

/-- A read changes nothing but the position and the record of reads. -/
theorem read_keeps (s : Stream) (size : Option Int) :
    (s.read size).2.limit = s.limit ∧ (s.read size).2.fails = s.fails
      ∧ (s.read size).2.data = s.data ∧ (s.read size).2.access = s.access
      ∧ (s.read size).2.seeking = s.seeking := by
  unfold read
  split <;> exact ⟨rfl, rfl, rfl, rfl, rfl⟩

end Stream

namespace Pieces

/-- Pieces that break only behind their last part, if at all. -/
def Unfailing (p : Pieces) : Prop := ∀ n, p.failAfter = some n → p.pulled < n ∧ p.parts.length < n

theorem takes_pull (p : Pieces) : p.pull.Takes (fun q => q.rest.flatten) p.rest.flatten := by
  obtain ⟨-, hpull⟩ | ⟨part, -, hrest, hpull⟩ | ⟨-, hrest, hpull⟩ := p.pull_cases
  · rw [hpull]
    rfl
  · rw [hpull, hrest]
    rfl
  · rw [hpull, hrest]
    exact ⟨rfl, congrArg List.flatten hrest⟩

theorem Unfailing.not_broken {p : Pieces} (h : p.Unfailing) : p.isBroken = false := by
  unfold isBroken
  split
  · rename_i n hn
    have := (h n hn).1
    simp only [decide_eq_false_iff_not]
    omega
  · rfl

theorem unfailing_pull {p : Pieces} (h : p.Unfailing) :
    (∃ item, p.pull.result = .ok item) ∧ p.pull.next.Unfailing := by
  obtain ⟨hbroken, -⟩ | ⟨part, -, hrest, hpull⟩ | ⟨-, -, hpull⟩ := p.pull_cases
  · rw [h.not_broken] at hbroken
    cases hbroken
  · rw [hpull]
    refine ⟨⟨_, rfl⟩, fun n hn => ?_⟩
    -- a part was left, so the number of the next pull is at most that of the parts
    have hlen := congrArg List.length hrest
    simp only [rest, List.length_drop, List.length_cons] at hlen
    have := (h n hn).2
    show p.pulled + 1 < n ∧ p.parts.length < n
    omega
  · rw [hpull]
    exact ⟨⟨_, rfl⟩, h⟩

end Pieces

/-! ## Sources and feeds -/

namespace Source

/-- The bytes that are left in a source. -/
def rest : Source → Bytes
  | buffer b => b.rest
  | stream s => s.rest
  | pieces p => p.rest.flatten

/-- Whether an end that is found is the source's end. -/
def Honest : Source → Prop
  | stream s => s.Honest
  | _ => True

/-- Whether no pull of one size fails. -/
def Unfailing (size : Nat) : Source → Prop
  | buffer b => b.closed = false ∧ Buffer.isCountable (some (size : Int)) = true
  | stream s => s.Unfailing
  | pieces p => p.Unfailing

theorem honest_pull (size : Nat) (s : Source) (h : s.Honest) : (s.pull size).next.Honest := by
  match s with
  | buffer b =>
    simp only [pull]
    split <;> trivial
  | stream s =>
    intro k
    rw [(s.read_keeps _).1]
    exact h k
  | pieces p => trivial

theorem takes_pull (size : Nat) (s : Source) (h0 : 0 < size) (h : s.Honest) :
    (s.pull size).Takes rest s.rest := by
  match s with
  | buffer b =>
    simp only [pull]
    split
    · rename_i bs next hr
      obtain ⟨hbs, -, hrest⟩ := Buffer.read_eq_ok hr
      refine Outcome.takes_of_read (o := ⟨.ok bs, buffer next, []⟩) ?_ ?_ ?_
      · rintro _ ⟨⟩
        exact hrest
      · rintro ⟨⟩
        exact Buffer.portion_eq_nil h0 hbs.symm
      · rintro _ ⟨⟩
    · rfl
  | stream s =>
    refine Outcome.takes_of_read (o := ⟨(s.read _).1, stream (s.read _).2, []⟩) ?_ ?_ ?_
    · intro bs hr
      exact (Stream.read_eq_ok hr).2
    · intro hr
      exact Stream.portion_eq_nil h h0 (Stream.read_eq_ok hr).1.symm
    · intro e hr
      exact Stream.read_eq_error hr
  | pieces p => exact p.takes_pull

instance : Stock Source := ⟨rest, Honest, honest_pull, takes_pull⟩

/-- A source that does not fail IS STEADY. -/
theorem unfailing_pull {size : Nat} {s : Source} (h : s.Unfailing size) :
    (∃ item, (s.pull size).result = .ok item) ∧ (s.pull size).next.Unfailing size := by
  match s with
  | buffer b =>
    simp only [pull, Buffer.read, h.1, h.2]
    exact ⟨⟨_, rfl⟩, rfl, h.2⟩
  | stream s =>
    have hf : s.fails s.readNumber = false := h _
    simp only [pull, Stream.read, hf]
    exact ⟨⟨_, rfl⟩, h⟩
  | pieces p => exact Pieces.unfailing_pull h

theorem steady_of_unfailing {size : Nat} {s : Source} (h : s.Unfailing size) :
    Supply.Steady size s :=
  Supply.steady_of_invariant (Unfailing size) (fun _ => unfailing_pull) h

end Source

namespace Feed

/-- The bytes that are left in the source of a feed. -/
def rest (f : Feed) : Bytes := f.source.rest

def Honest (f : Feed) : Prop := f.source.Honest

theorem honest_pull (size : Nat) (f : Feed) (h : f.Honest) : (f.pull size).next.Honest := by
  match f with
  | direct s => exact s.honest_pull size h
  | awaiting s => exact h

theorem takes_pull (size : Nat) (f : Feed) (h0 : 0 < size) (h : f.Honest) :
    (f.pull size).Takes rest f.rest := by
  match f with
  | direct s => exact s.takes_pull size h0 h
  | awaiting s => rfl

instance : Stock Feed := ⟨rest, Honest, honest_pull, takes_pull⟩

theorem steady_direct {size : Nat} {s : Source} (h : s.Unfailing size) :
    Supply.Steady size (direct s) := by
  refine Supply.steady_of_invariant (fun f => ∃ t : Source, f = direct t ∧ t.Unfailing size) ?_
    ⟨s, rfl, h⟩
  rintro _ ⟨t, rfl, ht⟩
  exact ⟨(Source.unfailing_pull ht).1, _, rfl, (Source.unfailing_pull ht).2⟩

/-- A stream of which NO LATER READ fails is steady, whatever failed before. -/
theorem steady_later {size : Nat} {s : Stream}
    (h : ∀ k, s.readNumber ≤ k → s.fails k = false) :
    Supply.Steady size (direct (.stream s)) := by
  refine Supply.steady_of_invariant (fun f => ∃ t : Stream, f = direct (.stream t)
    ∧ t.fails = s.fails ∧ s.readNumber ≤ t.readNumber) ?_ ⟨s, rfl, rfl, Nat.le_refl _⟩
  rintro _ ⟨t, rfl, hfails, hle⟩
  have hf : ¬t.fails t.readNumber = true := by simp [hfails, h _ hle]
  have hread : t.read (some (size : Int)) = _ := if_neg hf
  have hpull : Supply.pull size (direct (.stream t)) = (Source.pull size (.stream t)).within direct := rfl
  rw [hpull]
  simp only [Source.pull, hread]
  exact ⟨⟨_, rfl⟩, _, rfl, hfails, Nat.le_succ_of_le hle⟩

end Feed

end SigV4
