/-
  SERIES: parts that are gone through FROM THE START at every iteration.

  Pieces come once; of a series each iteration has pieces of its own, so it is never used up.  A reader
  over pieces goes on where it stopped.  A reader over a series begins a new iteration AT EVERY READ, and
  holds what that iteration delivered and was not asked for.

  1. **Iterations** — `Series.iteration` are the pieces of one, and `reach` is what they deliver before
     they end or break.
  2. **Readers** — `SeriesReader.read` by size.
  3. **No end** — as soon as an iteration has a byte for every read, reading never comes to an end:
     `isEndless` tells which readers are so.  Draining such a reader takes for ever, which the fault
     `endless` stands for.  All others are supplies: each read uses up some of what is held
     (`read_weight`).
-/
import SigV4.Payload.Reader

namespace SigV4

namespace Pieces

/-- The parts that can still be pulled before the pieces end or break. -/
def reach (p : Pieces) : List Bytes :=
  match p.failAfter with
  | some n => p.rest.take (n - p.pulled)
  | none => p.rest

/-- Whether the pieces break before their end is found. -/
def breaks (p : Pieces) : Bool := p.failAfter.any (· ≤ p.parts.length)

/-- A part that is pulled is the first in reach. -/
theorem reach_pull {p : Pieces} {part : Bytes} (hbroken : p.isBroken = false)
    (hrest : p.rest = part :: (p.seek (p.pulled + 1)).rest) :
    p.reach = part :: (p.seek (p.pulled + 1)).reach := by
  unfold reach
  unfold isBroken at hbroken
  show (match p.failAfter with | some n => p.rest.take (n - p.pulled) | none => p.rest)
    = part :: (match p.failAfter with
      | some n => (p.seek (p.pulled + 1)).rest.take (n - (p.pulled + 1))
      | none => (p.seek (p.pulled + 1)).rest)
  cases hfail : p.failAfter with
  | none => exact hrest
  | some n =>
    rw [hfail] at hbroken
    have hlate : p.pulled < n := by simpa using hbroken
    have hleft : n - p.pulled = n - (p.pulled + 1) + 1 := by omega
    dsimp only
    rw [hrest, hleft, List.take_succ_cons]

/-- Pieces that break before their end have broken when none are left. -/
theorem isBroken_of_breaks {p : Pieces} (h : p.breaks = true) (hrest : p.rest = []) :
    p.isBroken = true := by
  have hpulled : p.parts.length ≤ p.pulled := List.drop_eq_nil_iff.mp hrest
  unfold breaks at h
  unfold isBroken
  cases hfail : p.failAfter with
  | none =>
    rw [hfail] at h
    cases h
  | some n =>
    rw [hfail] at h
    have hn : n ≤ p.parts.length := by simpa using h
    exact decide_eq_true (Nat.le_trans hn hpulled)

end Pieces

/-- Gathering loses nothing that was there, and adds NO MORE THAN IS IN REACH; of pieces that break it
delivers no less than it was asked for. -/
theorem Reader.gather_reach (limit : Option Nat) (acc : Bytes) (p : Pieces) {all : Bytes}
    (h : (gather limit acc p).result = .ok all) :
    acc.length ≤ all.length ∧ all.length ≤ acc.length + p.reach.flatten.length
      ∧ (p.breaks = true → limit.any (· ≤ all.length) = true) := by
  fun_induction gather limit acc p with
  | case1 acc p hl =>
    obtain rfl := Except.ok.inj h
    exact ⟨Nat.le_refl _, Nat.le_add_right _ _, fun _ => hl⟩
  | case2 acc p hl part next notices hp ih =>
    obtain ⟨hbroken, rfl, hrest⟩ := Pieces.pull_eq_some hp
    obtain ⟨hkept, hle, hfull⟩ := ih h
    rw [Pieces.reach_pull hbroken hrest, List.flatten_cons, List.length_append]
    rw [List.length_append] at hkept hle
    exact ⟨by omega, by omega, hfull⟩
  | case3 acc p hl next notices hp =>
    obtain rfl := Except.ok.inj h
    refine ⟨Nat.le_refl _, Nat.le_add_right _ _, fun hbreaks => ?_⟩
    obtain ⟨hbroken, -, hrest⟩ := Pieces.pull_eq_none hp
    rw [Pieces.isBroken_of_breaks hbreaks hrest] at hbroken
    cases hbroken
  | case4 => cases h

/-! ## Iterations -/

/-- Parts that can be gone through again and again. -/
structure Series where
  access : PieceAccess := .sync
  parts : List Bytes
  /-- After how many parts each iteration breaks. -/
  failAfter : Option Nat := none
deriving DecidableEq, Repr

namespace Series

/-- A new iteration. -/
def iteration (s : Series) : Pieces :=
  { origin := .library, access := s.access, parts := s.parts, failAfter := s.failAfter }

/-- The bytes that an iteration delivers before it ends or breaks. -/
def reach (s : Series) : Bytes := s.iteration.reach.flatten

/-- **Whether reads of one size go on for ever,** each with a new iteration: an iteration that ends needs a
single byte for that, one that breaks has to deliver enough before. -/
def isEndless (s : Series) (size : Nat) : Bool :=
  0 < size && if s.iteration.breaks then size ≤ s.reach.length else !s.reach.isEmpty

end Series

/-! ## Readers -/

/-- An asynchronous reader over a series. -/
structure SeriesReader where
  series : Series
  /-- Bytes that an iteration delivered and that were not asked for. -/
  held : Bytes := []
  closed : Bool := false

namespace SeriesReader

/-- **Reads** so many bytes, with a new iteration for those that are not held; a negative size asks for all
that are held and a whole iteration.  A read that fails leaves what was held. -/
def read (r : SeriesReader) (size : Option Int) : Outcome SeriesReader Bytes :=
  if r.closed then ⟨.error .readerClosed, r, []⟩
  else
    match size with
    | none => ⟨.error .sourceUnusable, r, []⟩
    | some n =>
      let o := Reader.gather (Reader.limitOf n) r.held r.series.iteration
      match o.result with
      | .ok all =>
        ⟨.ok (Reader.deliver (Reader.limitOf n) all).1,
          { r with held := (Reader.deliver (Reader.limitOf n) all).2 }, []⟩
      | .error e => ⟨.error e, r, []⟩

/-- Ends the use of the reader. -/
def close (r : SeriesReader) : SeriesReader := { r with closed := true }

/-! ## No end -/

/-- Whether reads of one size go on for ever. -/
def isEndless (r : SeriesReader) (size : Nat) : Bool := !r.closed && r.series.isEndless size

/-- **The next block** of a row of them, or the end.  Whoever asks an endless reader for all of its blocks
is never answered. -/
def pull (size : Nat) (r : SeriesReader) : Outcome SeriesReader (Option Bytes) :=
  if r.isEndless size then ⟨.error .endless, r, []⟩
  else (r.read (some size)).map Bytes.nonempty?

/-- A bound on what a reader that is not endless still delivers: an iteration for each byte that is held. -/
def weight (r : SeriesReader) : Nat := (r.series.reach.length + 1) * r.held.length

/-- What a delivery weighs: either nothing was added to what was held, or less than is delivered. -/
theorem weight_after {r : SeriesReader} {size : Nat} {all : Bytes}
    (h : all.length ≤ r.held.length
      ∨ (size ≤ all.length ∧ all.length ≤ r.held.length + r.series.reach.length
        ∧ r.series.reach.length < size)) :
    ({ r with held := all.drop size } : SeriesReader).weight + (all.take size).length ≤ r.weight := by
  let used := r.held.length - (all.length - size)
  have hpaid : (all.take size).length ≤ (r.series.reach.length + 1) * used := by
    rw [List.length_take, Nat.add_mul, Nat.one_mul]
    rcases h with h | ⟨hsize, hle, hshort⟩
    · have : min size all.length ≤ used := by omega
      omega
    · have hused : 0 < used := by omega
      have := Nat.le_mul_of_pos_right r.series.reach.length hused
      omega
  have hsplit : r.held.length = (all.length - size) + used := by omega
  calc (r.series.reach.length + 1) * (all.drop size).length + (all.take size).length
      ≤ (r.series.reach.length + 1) * (all.length - size) + (r.series.reach.length + 1) * used := by
        rw [List.length_drop]
        exact Nat.add_le_add_left hpaid _
    _ = r.weight := by rw [← Nat.mul_add, ← hsplit, weight]

/-- A read that is not one of an endless row takes what it delivers OFF WHAT IS HELD. -/
theorem read_weight {r : SeriesReader} {size : Nat} (hends : r.isEndless size = false) {bs : Bytes}
    (h : (r.read (some size)).result = .ok bs) :
    (r.read (some size)).next.weight + bs.length ≤ r.weight := by
  have hlimit : Reader.limitOf (size : Int) = some size := if_neg (by omega)
  unfold read at h ⊢
  cases hopen : r.closed with
  | true =>
    rw [hopen, if_pos rfl] at h
    cases h
  | false =>
    rw [hopen, if_neg Bool.false_ne_true] at h
    rw [if_neg Bool.false_ne_true]
    dsimp only at h ⊢
    rw [hlimit] at h ⊢
    cases hr : (Reader.gather (some size) r.held r.series.iteration).result with
    | error e =>
      rw [hr] at h
      cases h
    | ok all =>
      rw [hr] at h
      obtain rfl : all.take size = bs := Except.ok.inj h
      obtain ⟨-, hle, hfull⟩ := Reader.gather_reach _ _ _ hr
      have hreach : r.series.iteration.reach.flatten.length = r.series.reach.length := rfl
      refine weight_after ?_
      rw [isEndless, hopen, Series.isEndless, Bool.not_false, Bool.true_and] at hends
      rcases Nat.eq_zero_or_pos size with rfl | hpos
      · -- nothing is asked for, so nothing is pulled
        have hnone : Reader.gather (some 0) r.held r.series.iteration
            = ⟨.ok r.held, r.series.iteration, []⟩ := by
          rw [Reader.gather, if_pos (by simp)]
        rw [hnone] at hr
        rw [← Except.ok.inj hr]
        exact .inl (Nat.le_refl _)
      · rw [decide_eq_true hpos, Bool.true_and] at hends
        cases hbreaks : r.series.iteration.breaks with
        | true =>
          rw [hbreaks, if_pos rfl] at hends
          have hshort : r.series.reach.length < size := by simpa using hends
          have hsize : size ≤ all.length := by simpa using hfull hbreaks
          exact .inr ⟨hsize, hle, hshort⟩
        | false =>
          rw [hbreaks, if_neg Bool.false_ne_true] at hends
          have hnone : r.series.reach = [] := by simpa using hends
          rw [show r.series.iteration.reach.flatten = [] from hnone] at hle
          exact .inl hle

theorem pull_lightens (size : Nat) (r : SeriesReader) : (r.pull size).Lightens weight r.weight := by
  unfold pull
  cases hends : r.isEndless size with
  | true => exact trivial
  | false => exact Outcome.lightens_of_read fun _ h => r.read_weight hends h

instance : Supply SeriesReader := ⟨pull, weight, pull_lightens⟩

end SeriesReader

end SigV4
