/-
  ENDLESS readers: those over a series that has a byte for every read.

  1. **A read** — where an iteration has enough in reach, a read is not empty, and the reader stays as it was but
     for what it holds (`read_endless`).
  2. **A row of reads** — by induction none of them is empty, however many there are.  `isEndless_iff`: that is
     so of endless readers ONLY, since any other one loses weight with each read.
  3. **Bodies** — `Body.Supported` are the bodies that a signer takes and that do not fail.  Each of them can be
     read to its end, or is endless (`Supported.reliable_or_endless`); what is endless yields nothing.

  A reader over a series is endless for blocks of one size or of another, but while the series does not break
  the size makes no difference: a single byte in it is enough.
-/
import SigV4.Proofs.Payload.Delivery
import SigV4.Proofs.Payload.Reliable

namespace SigV4

/-! ## A read -/

namespace Pieces

theorem reach_of_rest {p : Pieces} (h : p.rest = []) : p.reach = [] := by
  unfold reach
  rw [h]
  cases p.failAfter with
  | none => rfl
  | some n => exact List.take_nil

/-- Pieces that have broken on the way have NOTHING IN REACH. -/
theorem breaks_of_isBroken {p : Pieces} (h : p.isBroken = true) (hplace : p.pulled ≤ p.parts.length) :
    p.breaks = true ∧ p.reach = [] := by
  unfold isBroken at h
  unfold breaks reach
  cases hfail : p.failAfter with
  | none =>
    rw [hfail] at h
    cases h
  | some n =>
    rw [hfail] at h
    have hn : n ≤ p.pulled := of_decide_eq_true h
    refine ⟨decide_eq_true (Nat.le_trans hn hplace), ?_⟩
    dsimp only
    rw [Nat.sub_eq_zero_of_le hn, List.take_zero]

end Pieces

/-- Gathering succeeds where the pieces end without a break, or have ENOUGH before it; it then has what it was
asked for, or all that is in reach. -/
theorem Reader.gather_enough (limit : Option Nat) (acc : Bytes) {p : Pieces}
    (hplace : p.pulled ≤ p.parts.length)
    (henough : p.breaks = true → limit.any (· ≤ acc.length + p.reach.flatten.length) = true) :
    ∃ all, (gather limit acc p).result = .ok all
      ∧ (limit.any (· ≤ all.length) = true ∨ acc.length + p.reach.flatten.length ≤ all.length) := by
  fun_induction gather limit acc p with
  | case1 acc p hl => exact ⟨acc, rfl, .inl hl⟩
  | case2 acc p hl part next notices hp ih =>
    obtain ⟨hbroken, rfl, hrest⟩ := Pieces.pull_eq_some hp
    have hreach : acc.length + p.reach.flatten.length
        = (acc ++ part).length + (p.seek (p.pulled + 1)).reach.flatten.length := by
      rw [Pieces.reach_pull hbroken hrest, List.flatten_cons, List.length_append,
        List.length_append, Nat.add_assoc]
    -- a part was left, so the number of pulled parts stays within that of the parts
    have hlen := congrArg List.length hrest
    simp only [Pieces.rest, List.length_drop, List.length_cons] at hlen
    rw [hreach] at henough ⊢
    exact ih (show p.pulled + 1 ≤ p.parts.length by omega) henough
  | case3 acc p hl next notices hp =>
    obtain ⟨-, -, hrest⟩ := Pieces.pull_eq_none hp
    rw [Pieces.reach_of_rest hrest]
    exact ⟨acc, rfl, .inr (Nat.le_refl _)⟩
  | case4 acc p hl e next notices hp =>
    obtain ⟨hbroken, -⟩ := Pieces.pull_eq_error hp
    obtain ⟨hbreaks, hreach⟩ := Pieces.breaks_of_isBroken hbroken hplace
    have hlimit := henough hbreaks
    rw [hreach] at hlimit
    exact absurd hlimit hl

namespace SeriesReader

/-- A read changes NOTHING BUT WHAT IS HELD. -/
theorem read_keeps (r : SeriesReader) (size : Option Int) :
    (r.read size).next.series = r.series ∧ (r.read size).next.closed = r.closed := by
  unfold read
  split
  · exact ⟨rfl, rfl⟩
  · split
    · exact ⟨rfl, rfl⟩
    · dsimp only
      split <;> exact ⟨rfl, rfl⟩

theorem isEndless_read (r : SeriesReader) (size : Option Int) (n : Nat) :
    (r.read size).next.isEndless n = r.isEndless n := by
  obtain ⟨hseries, hclosed⟩ := r.read_keeps size
  rw [isEndless, isEndless, hseries, hclosed]

/-- **A read of an endless row delivers,** and there is another one behind it. -/
theorem read_endless {r : SeriesReader} {size : Nat} (h : r.isEndless size = true) :
    ∃ bs, (r.read (some (size : Int))).result = .ok bs ∧ bs ≠ []
      ∧ (r.read (some (size : Int))).next.isEndless size = true := by
  have hlimit : Reader.limitOf (size : Int) = some size := if_neg (by omega)
  have hnext := (r.isEndless_read (some (size : Int)) size).trans h
  rw [isEndless, Series.isEndless, Bool.and_eq_true, Bool.and_eq_true] at h
  obtain ⟨hopen, h0, hlong⟩ := h
  replace hopen : r.closed = false := by simpa using hopen
  replace h0 : 0 < size := of_decide_eq_true h0
  have hreach : 0 < r.series.reach.length ∧ (r.series.iteration.breaks = true →
      size ≤ r.series.reach.length) := by
    cases hbreaks : r.series.iteration.breaks with
    | true =>
      rw [hbreaks, if_pos rfl] at hlong
      have hle : size ≤ r.series.reach.length := by simpa using hlong
      exact ⟨by omega, fun _ => hle⟩
    | false =>
      rw [hbreaks, if_neg Bool.false_ne_true] at hlong
      refine ⟨List.length_pos_iff.mpr ?_, fun h => absurd h Bool.false_ne_true⟩
      simpa using hlong
  obtain ⟨all, hr, hall⟩ := Reader.gather_enough (some size) r.held
    (show r.series.iteration.pulled ≤ r.series.iteration.parts.length from Nat.zero_le _)
    fun hbreaks => decide_eq_true (Nat.le_trans (hreach.2 hbreaks) (Nat.le_add_left _ _))
  have hpos : 0 < all.length := by
    rcases hall with hall | hall
    · have hle : size ≤ all.length := by simpa using hall
      omega
    · have : r.series.iteration.reach.flatten.length = r.series.reach.length := rfl
      omega
  refine ⟨all.take size, ?_, fun hempty => ?_, hnext⟩
  · unfold read
    rw [hopen, if_neg Bool.false_ne_true]
    dsimp only
    rw [hlimit, hr]
    rfl
  · rcases List.take_eq_nil_iff.mp hempty with hzero | hnil
    · omega
    · rw [hnil] at hpos
      exact absurd hpos (Nat.lt_irrefl 0)

/-! ## A row of reads -/

/-- A row of reads goes on behind the first one if that succeeds. -/
theorem readEach_cons (size : Nat) (sizes : List Nat) (r : SeriesReader) :
    (Body.readEach (size :: sizes) (.seriesReader r)).result
      = match (r.read (some (size : Int))).result with
        | .ok bs => (Body.readEach sizes
            (.seriesReader (r.read (some (size : Int))).next)).result.map (bs :: ·)
        | .error e => .error e := by
  show (((r.read (some (size : Int))).within Body.seriesReader).andThen _).result = _
  rw [Outcome.andThen, Outcome.result_within]
  cases (r.read (some (size : Int))).result with
  | error e => rfl
  | ok bs => rfl

/-- By induction on their number: NO READ of an endless row is empty. -/
theorem readEach_endless {size : Nat} (n : Nat) {r : SeriesReader} (h : r.isEndless size = true) :
    ∃ items, (Body.readEach (List.replicate n size) (.seriesReader r)).result = .ok items
      ∧ [] ∉ items := by
  induction n generalizing r with
  | zero => exact ⟨[], rfl, List.not_mem_nil⟩
  | succ n ih =>
    obtain ⟨bs, hread, hne, hnext⟩ := read_endless h
    obtain ⟨items, hitems, hall⟩ := ih hnext
    refine ⟨bs :: items, ?_, ?_⟩
    · rw [List.replicate_succ, readEach_cons, hread]
      dsimp only
      rw [hitems]
      rfl
    · rw [List.mem_cons]
      rintro (hempty | hmem)
      · exact hne hempty.symm
      · exact hall hmem

/-- By induction on their number: reads that are not empty take WEIGHT off any other reader. -/
theorem length_readEach_le {size : Nat} (n : Nat) {r : SeriesReader} (h : r.isEndless size = false)
    {items : List Bytes}
    (hitems : (Body.readEach (List.replicate n size) (.seriesReader r)).result = .ok items)
    (hall : [] ∉ items) : n ≤ r.weight := by
  induction n generalizing r items with
  | zero => exact Nat.zero_le _
  | succ n ih =>
    rw [List.replicate_succ, readEach_cons] at hitems
    cases hread : (r.read (some (size : Int))).result with
    | error e =>
      rw [hread] at hitems
      cases hitems
    | ok bs =>
      rw [hread] at hitems
      dsimp only at hitems
      cases hmore : (Body.readEach (List.replicate n size)
          (.seriesReader (r.read (some (size : Int))).next)).result with
      | error e =>
        rw [hmore] at hitems
        cases hitems
      | ok more =>
        rw [hmore] at hitems
        obtain rfl : bs :: more = items := Except.ok.inj hitems
        rw [List.mem_cons, not_or] at hall
        have hlighter := read_weight h hread
        have hbs : 0 < bs.length := List.length_pos_iff.mpr fun hnil => hall.1 hnil.symm
        have := ih ((r.isEndless_read _ size).trans h) hmore hall.2
        omega

/-- **A reader is endless just where no row of reads comes to an end.** -/
theorem isEndless_iff {r : SeriesReader} {size : Nat} : r.isEndless size = true
    ↔ ∀ n, ∃ items, (Body.readEach (List.replicate n size) (.seriesReader r)).result = .ok items
      ∧ [] ∉ items := by
  refine ⟨fun h n => readEach_endless n h, fun h => ?_⟩
  cases hends : r.isEndless size with
  | true => rfl
  | false =>
    obtain ⟨items, hitems, hall⟩ := h (r.weight + 1)
    have := length_readEach_le (r.weight + 1) hends hitems hall
    omega

end SeriesReader

/-! ## Bodies -/

namespace Body

/-- **A body that a signer takes and that does not fail:** one that can be read to its end, or a reader over a
series that does not break. -/
def Supported (access : Access) (body : Body) : Prop :=
  body.Reliable access ∨ access = .async ∧ ∃ r, body = seriesReader r ∧ r.closed = false
    ∧ r.series.iteration.Unfailing

/-- **A body that never comes to an end,** in blocks of any size. -/
def Endless (body : Body) : Prop :=
  ∃ r, body = seriesReader r ∧ ∀ size, 0 < size → r.isEndless size = true

/-- Whoever drains an endless body is never answered, so it yields NOTHING. -/
theorem Endless.readOut {body : Body} (h : body.Endless) {size : Nat} (h0 : 0 < size) :
    body.readOut size = .error .endless := by
  obtain ⟨r, rfl, hall⟩ := h
  have hpull : Supply.pull size r = ⟨.error .endless, r, []⟩ := if_pos (hall size h0)
  show (Supply.drain size r).result.map List.flatten = _
  rw [Supply.drain_eq, hpull]
  rfl

theorem Endless.not_yields {body : Body} (h : body.Endless) (data : Bytes) : ¬body.Yields data := by
  intro hyields
  have hone := hyields 1 (by decide) (by decide)
  rw [h.readOut (by decide)] at hone
  cases hone

/-- **What a signer takes has an end, or is endless.** -/
theorem Supported.reliable_or_endless {access : Access} {body : Body} (h : body.Supported access) :
    body.Reliable access ∨ access = .async ∧ body.Endless := by
  rcases h with h | ⟨rfl, r, rfl, hopen, hunfailing⟩
  · exact .inl h
  · by_cases hsilent : r.series.parts.flatten = []
    · exact .inl ⟨hopen, hunfailing, hsilent⟩
    · refine .inr ⟨rfl, r, rfl, fun size h0 => ?_⟩
      obtain ⟨hbreaks, hreach⟩ := Series.reach_eq hunfailing
      rw [SeriesReader.isEndless, Series.isEndless, hopen, hbreaks, hreach, decide_eq_true h0]
      simpa using hsilent

/-- A body that a signer takes and that yields something can be read to its end. -/
theorem Supported.reliable {access : Access} {body : Body} (h : body.Supported access) {data : Bytes}
    (hyields : body.Yields data) : body.Reliable access := by
  rcases h.reliable_or_endless with h | ⟨-, hendless⟩
  · exact h
  · exact absurd hyields (hendless.not_yields data)

/-- **A reader over a series with a byte in it is supported and endless,** if it has to be waited for. -/
theorem asReader_endless {s : Series} (hasync : s.iteration.isAsync = true)
    (hunfailing : s.iteration.Unfailing) (hbyte : s.parts.flatten ≠ []) :
    ∃ body, (series s).asReader? = some body ∧ body.Supported .async ∧ body.Endless := by
  have hsupported : (seriesReader { series := s }).Supported .async :=
    .inr ⟨rfl, _, rfl, rfl, hunfailing⟩
  refine ⟨seriesReader { series := s }, if_pos hasync, hsupported, ?_⟩
  rcases hsupported.reliable_or_endless with h | ⟨-, hendless⟩
  · exact absurd h.silent hbyte
  · exact hendless

end Body

end SigV4
