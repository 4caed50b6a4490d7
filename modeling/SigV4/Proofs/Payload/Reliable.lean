/-
  RELIABLE bodies: what can be read to its end, and which bytes that yields.

  1. **Whole readings** — `Body.readOut` reads a body from where it stands to its end, in blocks of one size;
     `Body.Yields` says that blocks of EVERY size that can be asked for yield the same bytes.
  2. **Sources** — a reliable source is open, does not fail, and does not pretend to be at its end.  Put
     back to an earlier place it is reliable still, and the same bytes are left of it.
  3. **Readers** — a reader over pieces holds what it pulled and was not asked for; as long as its pieces do
     not break it is a stock of what it holds and what they still have.
  4. **Readers over a series** — one that finds no byte in its series delivers what it holds and ends.
  5. **Bodies** — `Body.Reliable` are the bodies that a signer of one kind can read.  Each of them yields
     what is left of it (`Reliable.yields`).

  The crux is `gather_takes`: pieces move into what a reader holds, whole, and nothing is lost between them.
-/
import SigV4.Proofs.Payload.Contents
import SigV4.Proofs.Payload.Drain

namespace SigV4

/-! ## Whole readings -/

namespace Body

/-- **Reads a body to its end,** in blocks of so many bytes, or in its own parts. -/
def readOut (size : Nat) : Body → Except Fault Bytes
  | absent => .ok []
  | bytes data => .ok data
  | byteArray data => .ok data
  | parts items => .ok items.flatten
  | buffer b => (Supply.drain size (Source.buffer b)).result.map List.flatten
  | stream s => (Supply.drain size (Source.stream s)).result.map List.flatten
  | pieces p => (Supply.drain size (Source.pieces p)).result.map List.flatten
  | series s => (Supply.drain size (Source.pieces s.iteration)).result.map List.flatten
  | reader _ r => (Supply.drain size r).result.map List.flatten
  | seriesReader r => (Supply.drain size r).result.map List.flatten
  | framed _ p => (Supply.drain size p).result.map List.flatten
  | inert typeName => .error (.bodyUnreadable typeName)

/-- **Whoever reads the body to its end gets these bytes,** in blocks of any size. -/
def Yields (body : Body) (data : Bytes) : Prop :=
  ∀ size : Nat, 0 < size → Buffer.isCountable (some (size : Int)) = true →
    body.readOut size = .ok data

/-- A body yields ONE row of bytes. -/
theorem Yields.unique {body : Body} {data data' : Bytes} (h : body.Yields data)
    (h' : body.Yields data') : data = data' :=
  Except.ok.inj ((h 1 (by decide) (by decide)).symm.trans (h' 1 (by decide) (by decide)))

end Body

/-! ## Sources -/

namespace Source

/-- A source that can be read to its end. -/
def Reliable : Source → Prop
  | buffer b => b.closed = false
  | stream s => s.Honest ∧ s.Unfailing
  | pieces p => p.Unfailing

theorem Reliable.honest {s : Source} (h : s.Reliable) : s.Honest := by
  cases s with
  | stream s => exact h.1
  | _ => trivial

theorem Reliable.unfailing {s : Source} (h : s.Reliable) {size : Nat}
    (hsize : Buffer.isCountable (some (size : Int)) = true) : s.Unfailing size := by
  cases s with
  | buffer b => exact ⟨h, hsize⟩
  | stream s => exact h.2
  | pieces p => exact h

/-- A reliable source that is drained delivers WHAT IS LEFT of it. -/
theorem Reliable.drain {s : Source} (h : s.Reliable) {size : Nat} (h0 : 0 < size)
    (hsize : Buffer.isCountable (some (size : Int)) = true) :
    ∃ blocks, (Supply.drain size s).result = .ok blocks ∧ blocks.flatten = s.rest := by
  have hh : Stock.Honest s := h.honest
  obtain ⟨blocks, hb⟩ := steady_of_unfailing (h.unfailing hsize)
  exact ⟨blocks, hb, Supply.flatten_drain h0 hh hb⟩

/-- The place at which a source is read: how many bytes, or how many pieces, lie before it. -/
def place : Source → Nat
  | buffer b => b.pos
  | stream s => s.pos
  | pieces p => p.pulled

/-- `t` is `s` at the place where `s` is read. -/
def Back (s t : Source) : Prop := s.Moved t ∧ t.place = s.place

/-- A source that was moved and is put back STANDS WHERE IT STOOD. -/
theorem back_backTo {s t : Source} (h : s.Moved t) : s.Back (PayloadHash.backTo s t) := by
  refine ⟨moved_backTo h, ?_⟩
  cases s with
  | buffer b =>
    obtain ⟨pos, rfl⟩ := moved_buffer h
    rfl
  | stream a =>
    obtain ⟨c, rfl, -⟩ := moved_stream h
    rfl
  | pieces p =>
    obtain ⟨pulled, rfl⟩ := moved_pieces h
    rfl

/-- Where a source is back at its place, the same bytes are left of it, as reliably as before. -/
theorem Back.keeps {s t : Source} (h : s.Back t) :
    t.rest = s.rest ∧ (s.Reliable → t.Reliable) := by
  obtain ⟨hmoved, hplace⟩ := h
  cases s with
  | buffer b =>
    obtain ⟨pos, rfl⟩ := moved_buffer hmoved
    obtain rfl : pos = b.pos := hplace
    exact ⟨rfl, id⟩
  | stream a =>
    obtain ⟨c, rfl, hdata, hlimit, hfails, -, -⟩ := moved_stream hmoved
    have hpos : c.pos = a.pos := hplace
    constructor
    · show c.data.drop c.pos = a.data.drop a.pos
      rw [hdata, hpos]
    · rintro ⟨hhonest, hunfailing⟩
      constructor
      · intro k
        rw [hlimit]
        exact hhonest k
      · intro k
        rw [hfails]
        exact hunfailing k
  | pieces p =>
    obtain ⟨pulled, rfl⟩ := moved_pieces hmoved
    obtain rfl : pulled = p.pulled := hplace
    exact ⟨rfl, id⟩

end Source

/-! ## Readers -/

namespace Reader

/-- The bytes that are left in a reader: what it holds, and what its source still has. -/
def rest (r : Reader) : Bytes := r.held ++ r.source.rest

/-- Whether a reader delivers all that is left in it.  Only over pieces does it hold anything, and pieces
that break would take with them what was pulled for the same read. -/
def Honest (r : Reader) : Prop :=
  match r.source with
  | .buffer _ => r.held = []
  | .stream s => r.held = [] ∧ s.Honest
  | .pieces p => p.Unfailing

/-- Whether no read of one size fails. -/
def Unfailing (size : Nat) (r : Reader) : Prop := r.closed = false ∧ r.source.Unfailing size

/-- **What gathering moves:** the pieces that were pulled stand behind what was there, and there is enough
or there is nothing to come. -/
theorem gather_takes (limit : Option Nat) (acc : Bytes) {p : Pieces} (h : p.Unfailing) :
    ∃ all, (gather limit acc p).result = .ok all ∧ (gather limit acc p).next.Unfailing
      ∧ all ++ (gather limit acc p).next.rest.flatten = acc ++ p.rest.flatten
      ∧ (limit.any (· ≤ all.length) = true ∨ (gather limit acc p).next.rest.flatten = []) := by
  fun_induction gather limit acc p with
  | case1 acc p hl => exact ⟨acc, rfl, h, rfl, Or.inl hl⟩
  | case2 acc p hl part next notices hp ih =>
    have ht := p.takes_pull
    have hn := (Pieces.unfailing_pull h).2
    rw [hp] at ht hn
    have hrest : part ++ next.rest.flatten = p.rest.flatten := ht
    obtain ⟨all, hr, hu, ha, he⟩ := ih hn
    refine ⟨all, hr, hu, ?_, he⟩
    rw [ha, List.append_assoc, hrest]
  | case3 acc p hl next notices hp =>
    have ht := p.takes_pull
    have hn := (Pieces.unfailing_pull h).2
    rw [hp] at ht hn
    obtain ⟨hbefore, hafter⟩ := ht
    refine ⟨acc, rfl, hn, ?_, Or.inr hafter⟩
    show acc ++ next.rest.flatten = _
    rw [hbefore, show next.rest.flatten = [] from hafter]
  | case4 acc p hl e next notices hp =>
    obtain ⟨⟨item, hi⟩, -⟩ := Pieces.unfailing_pull h
    rw [hp] at hi
    cases hi

theorem deliver_append (limit : Option Nat) (all : Bytes) :
    (deliver limit all).1 ++ (deliver limit all).2 = all := by
  cases limit with
  | none => exact List.append_nil all
  | some n => exact List.take_append_drop n all

/-- A read over pieces that do not break delivers the first of what is left, and is empty only at the
end. -/
theorem read_pieces {r : Reader} {p : Pieces} (hopen : r.closed = false) (hs : r.source = .pieces p)
    (hp : p.Unfailing) (size : Nat) (h0 : 0 < size) :
    ∃ (bs held : Bytes) (next : Pieces),
      r.read (some size) = ⟨.ok bs, { r with source := .pieces next, held := held }, []⟩
        ∧ next.Unfailing ∧ bs ++ (held ++ next.rest.flatten) = r.held ++ p.rest.flatten
        ∧ (bs = [] → r.held ++ p.rest.flatten = []) := by
  have hlimit : limitOf (size : Int) = some size := if_neg (by omega)
  obtain ⟨all, hr, hu, ha, he⟩ := gather_takes (some size) r.held hp
  have happend := deliver_append (some size) all
  refine ⟨(deliver (some size) all).1, (deliver (some size) all).2, _, ?_, hu, ?_, fun hempty => ?_⟩
  · unfold read
    rw [hopen, if_neg (by decide), hs]
    dsimp only
    rw [hlimit, hr]
  · rw [← List.append_assoc, happend, ha]
  · have hall : all = [] := (List.take_eq_nil_iff.mp hempty).resolve_left (by omega)
    rw [← ha, hall]
    rcases he with he | he
    · have hle : size ≤ all.length := by simpa using he
      rw [hall, List.length_nil] at hle
      omega
    · rw [he]
      rfl

theorem honest_pull (size : Nat) (r : Reader) (h : r.Honest) : (r.pull size).next.Honest := by
  show (r.read (some (size : Int))).next.Honest
  unfold Honest at h
  unfold read
  split
  · exact h
  · cases hs : r.source with
    | buffer b =>
      rw [hs] at h
      dsimp only
      split
      · exact h
      · unfold Honest
        rw [hs]
        exact h
    | stream s =>
      rw [hs] at h
      obtain ⟨hheld, hh⟩ := h
      refine ⟨hheld, fun k => ?_⟩
      rw [(s.read_keeps _).1]
      exact hh k
    | pieces p =>
      rw [hs] at h
      obtain ⟨all, hr, hu, -, -⟩ := gather_takes (limitOf (size : Int)) r.held h
      dsimp only
      rw [hr]
      exact hu

/-- A reader that is open and not over pieces passes each read on TO ITS SOURCE. -/
theorem pull_source {r : Reader} (hopen : r.closed = false) (hs : ∀ p, r.source ≠ .pieces p)
    (size : Nat) :
    (r.pull size).result = (r.source.pull size).result
      ∧ (r.pull size).next = { r with source := (r.source.pull size).next } := by
  obtain ⟨source, held, closed⟩ := r
  obtain rfl : closed = false := hopen
  cases source with
  | buffer b =>
    show ((Reader.read _ (some (size : Int))).map Bytes.nonempty?).result = (Source.pull size _).result
      ∧ ((Reader.read _ (some (size : Int))).map Bytes.nonempty?).next
        = ⟨(Source.pull size _).next, held, false⟩
    simp only [Reader.read, Source.pull]
    cases b.read (some (size : Int)) with
    | error e => exact ⟨rfl, rfl⟩
    | ok read => exact ⟨rfl, rfl⟩
  | stream s => exact ⟨rfl, rfl⟩
  | pieces p => exact absurd rfl (hs p)

/-- What a source obeys that is passed on to, the reader obeys. -/
theorem takes_source {r : Reader} (hopen : r.closed = false) (hs : ∀ p, r.source ≠ .pieces p)
    (hheld : r.held = []) {size : Nat} (h0 : 0 < size) (hh : r.source.Honest) :
    (r.pull size).Takes rest r.rest := by
  obtain ⟨hresult, hnext⟩ := pull_source hopen hs size
  have ht := r.source.takes_pull size h0 hh
  have hrest : r.rest = r.source.rest := by rw [rest, hheld, List.nil_append]
  have hafter : (r.pull size).next.rest = (r.source.pull size).next.rest := by
    rw [hnext]
    show r.held ++ _ = _
    rw [hheld, List.nil_append]
  unfold Outcome.Takes at ht ⊢
  rw [hresult, hafter, hrest]
  exact ht

theorem takes_pull (size : Nat) (r : Reader) (h0 : 0 < size) (h : r.Honest) :
    (r.pull size).Takes rest r.rest := by
  unfold Honest at h
  cases hopen : r.closed with
  | true =>
    -- a reader that was closed fails, and keeps what it has
    have hread : r.read (some (size : Int)) = ⟨.error .readerClosed, r, []⟩ := by
      unfold read
      rw [hopen, if_pos rfl]
    unfold pull
    rw [hread]
    rfl
  | false =>
    cases hs : r.source with
    | buffer b =>
      rw [hs] at h
      exact takes_source hopen (by rw [hs]; nofun) h h0 (by rw [hs]; trivial)
    | stream s =>
      rw [hs] at h
      exact takes_source hopen (by rw [hs]; nofun) h.1 h0 (by rw [hs]; exact h.2)
    | pieces p =>
      rw [hs] at h
      obtain ⟨bs, held, next, hread, hu, happend, hempty⟩ := read_pieces hopen hs h size h0
      refine Outcome.takes_of_read ?_ ?_ ?_
      · rw [hread]
        rintro _ ⟨⟩
        show bs ++ (held ++ next.rest.flatten) = r.held ++ r.source.rest
        rw [hs]
        exact happend
      · rw [hread]
        intro hr
        show r.held ++ r.source.rest = []
        rw [hs]
        exact hempty (Except.ok.inj hr)
      · rw [hread]
        rintro _ ⟨⟩

instance : Stock Reader := ⟨rest, Honest, honest_pull, takes_pull⟩

/-- While its source does not fail, a reader SUCCEEDS. -/
theorem unfailing_pull {size : Nat} (h0 : 0 < size) {r : Reader} (h : r.Unfailing size) :
    (∃ item, (r.pull size).result = .ok item) ∧ (r.pull size).next.Unfailing size := by
  obtain ⟨hopen, hu⟩ := h
  by_cases hs : ∃ p, r.source = .pieces p
  · obtain ⟨p, hs⟩ := hs
    have hp : p.Unfailing := by rwa [hs] at hu
    obtain ⟨bs, held, next, hread, hnext, -, -⟩ := read_pieces hopen hs hp size h0
    unfold pull
    rw [hread]
    exact ⟨⟨_, rfl⟩, hopen, hnext⟩
  · obtain ⟨hresult, hnext⟩ := pull_source hopen (fun p hp => hs ⟨p, hp⟩) size
    obtain ⟨⟨item, hi⟩, hun⟩ := Source.unfailing_pull hu
    rw [hresult, hnext]
    exact ⟨⟨item, hi⟩, hopen, hun⟩

/-- A reader that can be read to its end. -/
structure Reliable (r : Reader) : Prop where
  opened : r.closed = false
  honest : r.Honest
  source : r.source.Reliable

/-- A reliable reader that is drained delivers what it holds and WHAT ITS SOURCE STILL HAS. -/
theorem Reliable.drain {r : Reader} (h : r.Reliable) {size : Nat} (h0 : 0 < size)
    (hsize : Buffer.isCountable (some (size : Int)) = true) :
    ∃ blocks, (Supply.drain size r).result = .ok blocks ∧ blocks.flatten = r.rest := by
  have hh : Stock.Honest r := h.honest
  have hu : r.Unfailing size := ⟨h.opened, h.source.unfailing hsize⟩
  obtain ⟨blocks, hb⟩ :=
    Supply.steady_of_invariant (Unfailing size) (fun _ => unfailing_pull h0) hu
  exact ⟨blocks, hb, Supply.flatten_drain h0 hh hb⟩

/-- A reader of the library's own over bytes is reliable. -/
theorem reliable_ofBytes (data : Bytes) : ({ source := .buffer (.ofBytes data) } : Reader).Reliable :=
  ⟨rfl, rfl, rfl⟩

end Reader

/-! ## Readers over a series -/

/-- An iteration that does not break has ALL PARTS in reach. -/
theorem Series.reach_eq {s : Series} (h : s.iteration.Unfailing) :
    s.iteration.breaks = false ∧ s.reach = s.parts.flatten := by
  unfold Series.reach Pieces.reach Pieces.breaks
  cases hfail : s.iteration.failAfter with
  | none => exact ⟨rfl, rfl⟩
  | some n =>
    have hlate : s.parts.length < n := (h n hfail).2
    refine ⟨decide_eq_false (Nat.not_le.mpr hlate), ?_⟩
    show (s.parts.take n).flatten = _
    rw [List.take_of_length_le (Nat.le_of_lt hlate)]

namespace SeriesReader

/-- A reader over a series that can be read to its end, since there is NO BYTE in the series. -/
structure Reliable (r : SeriesReader) : Prop where
  opened : r.closed = false
  unfailing : r.series.iteration.Unfailing
  silent : r.series.parts.flatten = []

/-- Such a reader delivers what it holds. -/
theorem Reliable.read {r : SeriesReader} (h : r.Reliable) (size : Nat) :
    r.read (some (size : Int)) = ⟨.ok (r.held.take size), { r with held := r.held.drop size }, []⟩ := by
  have hlimit : Reader.limitOf (size : Int) = some size := if_neg (by omega)
  obtain ⟨all, hr, -, happend, -⟩ := Reader.gather_takes (some size) r.held h.unfailing
  obtain ⟨hkept, -, -⟩ := Reader.gather_reach _ _ _ hr
  have hnone : r.series.iteration.rest.flatten = [] := h.silent
  obtain rfl : all = r.held := by
    rw [hnone, List.append_nil] at happend
    have hheld : all <+: r.held := ⟨_, happend⟩
    exact hheld.eq_of_length_le hkept
  unfold SeriesReader.read
  rw [h.opened, if_neg Bool.false_ne_true]
  dsimp only
  rw [hlimit, hr]
  rfl

theorem Reliable.isEndless {r : SeriesReader} (h : r.Reliable) (size : Nat) :
    r.isEndless size = false := by
  obtain ⟨hbreaks, hreach⟩ := Series.reach_eq h.unfailing
  rw [SeriesReader.isEndless, Series.isEndless, hbreaks, hreach, h.silent]
  simp

theorem Reliable.pull {r : SeriesReader} (h : r.Reliable) (size : Nat) :
    r.pull size = ⟨.ok (Bytes.nonempty? (r.held.take size)), { r with held := r.held.drop size }, []⟩ := by
  rw [SeriesReader.pull, h.isEndless size, if_neg Bool.false_ne_true, h.read size]
  rfl

instance : Stock SeriesReader where
  rest := held
  Honest := Reliable
  honest_pull size r h := by
    show (r.pull size).next.Reliable
    rw [h.pull size]
    exact ⟨h.opened, h.unfailing, h.silent⟩
  takes_pull size r h0 h := by
    show ((r.pull size).Takes held r.held)
    have hread : r.pull size = (r.read (some (size : Int))).map Bytes.nonempty? := by
      rw [SeriesReader.pull, h.isEndless size, if_neg Bool.false_ne_true]
    rw [hread]
    refine Outcome.takes_of_read ?_ ?_ ?_
    · rw [h.read size]
      rintro _ ⟨⟩
      exact List.take_append_drop size r.held
    · rw [h.read size]
      intro hempty
      exact (List.take_eq_nil_iff.mp (Except.ok.inj hempty)).resolve_left (by omega)
    · rw [h.read size]
      rintro _ ⟨⟩

/-- A reader over a series without a byte is drained of WHAT IT HOLDS. -/
theorem Reliable.drain {r : SeriesReader} (h : r.Reliable) {size : Nat} (h0 : 0 < size) :
    ∃ blocks, (Supply.drain size r).result = .ok blocks ∧ blocks.flatten = r.held := by
  have hh : Stock.Honest r := h
  obtain ⟨blocks, hb⟩ : Supply.Steady size r := by
    refine Supply.steady_of_invariant Reliable (fun q hq => ⟨?_, Stock.honest_pull size q hq⟩) h
    exact ⟨_, congrArg Outcome.result (hq.pull size)⟩
  exact ⟨blocks, hb, Supply.flatten_drain h0 hh hb⟩

end SeriesReader

/-! ## Bodies -/

namespace Body

/-- **A body that a signer can read to its end,** waiting for it or not.  A stream that is read without
waiting is not one that has to be waited for to be sought, and a reader over a series has an end only if
there is no byte in the series. -/
def Reliable : Access → Body → Prop
  | _, absent => True
  | _, bytes _ => True
  | _, byteArray _ => True
  | .sync, parts _ => True
  | .sync, buffer b => b.closed = false
  | .sync, stream s => s.access = .sync ∧ s.seeking ≠ some .async ∧ s.Honest ∧ s.Unfailing
  | .async, stream s => s.access = .async ∧ s.Honest ∧ s.Unfailing
  | .sync, pieces p => p.isSync = true ∧ p.Unfailing
  | .async, pieces p => p.isAsync = true ∧ p.Unfailing
  | .sync, series s => s.iteration.isSync = true ∧ s.iteration.Unfailing
  | .async, series s => s.iteration.isAsync = true ∧ s.iteration.Unfailing
  | .async, reader _ r => r.Reliable
  | .async, seriesReader r => r.Reliable
  | .sync, framed _ p => p.Exact ∧ p.Steady
  | _, _ => False

theorem yields_source {s : Source} (h : s.Reliable) : (PayloadHash.bodyOf s).Yields s.rest := by
  intro size h0 hsize
  obtain ⟨blocks, hb, hrest⟩ := h.drain h0 hsize
  cases s with
  | buffer b => rw [← hrest]; exact congrArg (Except.map List.flatten) hb
  | stream s => rw [← hrest]; exact congrArg (Except.map List.flatten) hb
  | pieces p => rw [← hrest]; exact congrArg (Except.map List.flatten) hb

theorem yields_reader {r : Reader} (h : r.Reliable) (origin : Origin) :
    (reader origin r).Yields r.rest := by
  intro size h0 hsize
  obtain ⟨blocks, hb, hrest⟩ := h.drain h0 hsize
  rw [← hrest]
  exact congrArg (Except.map List.flatten) hb

/-- A reader over a series without a byte yields what it holds. -/
theorem yields_seriesReader {r : SeriesReader} (h : r.Reliable) : (seriesReader r).Yields r.held := by
  intro size h0 _
  obtain ⟨blocks, hb, hheld⟩ := h.drain h0
  rw [← hheld]
  exact congrArg (Except.map List.flatten) hb

/-- A framed payload of the length that was declared for it yields the frames that are left. -/
theorem yields_framed {depth : Nat} {p : Framed (Layer depth)} (hx : p.Exact) (hs : p.Steady) :
    (framed depth p).Yields p.remaining := by
  intro size h0 _
  have hh : Stock.Honest p := hx
  obtain ⟨blocks, hb⟩ := Framed.steady_pull size hx hs
  have hrest : blocks.flatten = p.remaining := Supply.flatten_drain h0 hh hb
  rw [← hrest]
  exact congrArg (Except.map List.flatten) hb

/-- **A reliable body yields what is left of it.** -/
theorem Reliable.yields {access : Access} {body : Body} (h : body.Reliable access) :
    body.Yields body.rest := by
  cases body with
  | absent => exact fun _ _ _ => rfl
  | bytes data => exact fun _ _ _ => rfl
  | byteArray data => exact fun _ _ _ => rfl
  | parts items => exact fun _ _ _ => rfl
  | buffer b =>
    cases access with
    | sync => exact yields_source (s := .buffer b) h
    | async => exact h.elim
  | stream s =>
    cases access with
    | sync => exact yields_source (s := .stream s) h.2.2
    | async => exact yields_source (s := .stream s) h.2
  | pieces p =>
    cases access with
    | sync => exact yields_source (s := .pieces p) h.2
    | async => exact yields_source (s := .pieces p) h.2
  | series s =>
    cases access with
    | sync => exact yields_source (s := .pieces s.iteration) h.2
    | async => exact yields_source (s := .pieces s.iteration) h.2
  | reader origin r =>
    cases access with
    | sync => exact h.elim
    | async => exact yields_reader h origin
  | seriesReader r =>
    cases access with
    | sync => exact h.elim
    | async => exact yields_seriesReader h
  | framed depth p =>
    cases access with
    | sync => exact yields_framed h.1 h.2
    | async => exact h.elim
  | inert typeName => cases access <;> exact h.elim

end Body

end SigV4
