/-
  SPILLS: what a reader over pieces loses when its source breaks.

  A read pulls pieces until there are bytes enough.  Where a pull fails on the way, the bytes that were pulled
  for the SAME read are neither delivered nor held any more: the read spills them.

  1. **Draws** — `Reader.draws` keeps the books of a row of reads: what each pulled, and what came of it.
  2. **One read** — a read that succeeds delivers or holds all it pulled; one that fails leaves what was held
     before it, and the source broken (`read_balance`).
  3. **Rows of reads** — what is delivered and held is what was held and what the successful reads pulled.
     That is all that was pulled just where no read spills, and at most ONE read of a row does.

  The crux is `gather_balance`: pieces move whole, so the books need no case of their own for a piece that is
  asked for in parts.
-/
import SigV4.Proofs.Payload.Reliable

namespace SigV4

namespace Pieces

/-- The bytes of the pieces that have been pulled. -/
def past (p : Pieces) : Bytes := (p.parts.take p.pulled).flatten

/-- A pull puts its piece behind those that were pulled; any other leaves the source as it is. -/
theorem past_pull (p : Pieces) :
    (∃ part, p.pull.result = .ok (some part) ∧ p.isBroken = false
        ∧ p.pull.next.past = p.past ++ part)
      ∨ (p.pull.result = .ok none ∧ p.pull.next = p)
      ∨ ((∃ e, p.pull.result = .error e) ∧ p.pull.next = p ∧ p.isBroken = true) := by
  obtain ⟨hbroken, hpull⟩ | ⟨part, hwhole, hrest, hpull⟩ | ⟨-, -, hpull⟩ := p.pull_cases
  · rw [hpull]
    exact .inr (.inr ⟨⟨_, rfl⟩, rfl, hbroken⟩)
  · rw [hpull]
    refine .inl ⟨part, rfl, hwhole, ?_⟩
    have hpart : p.parts[p.pulled]? = some part := by
      have h := congrArg List.head? hrest
      rwa [rest, List.head?_drop] at h
    show (p.parts.take (p.pulled + 1)).flatten = _
    rw [List.take_add_one, hpart, List.flatten_append, Option.toList_some, List.flatten_singleton]
    rfl
  · rw [hpull]
    exact .inr (.inl ⟨rfl, rfl⟩)

end Pieces

namespace Reader

/-! ## Draws -/

/-- The bytes of the pieces that have been pulled below the reader. -/
def past (r : Reader) : Bytes :=
  match r.source with
  | .pieces p => p.past
  | _ => []

/-- **What one read did:** the bytes it pulled, and what came of it. -/
structure Draw where
  pulled : Bytes
  result : Except Fault Bytes

namespace Draw

/-- What the read delivered; nothing if it failed. -/
def delivered (d : Draw) : Bytes :=
  match d.result with
  | .ok bs => bs
  | .error _ => []

/-- What the read pulled and did not lose. -/
def kept (d : Draw) : Bytes :=
  match d.result with
  | .ok _ => d.pulled
  | .error _ => []

/-- Whether the read lost bytes it had pulled. -/
def spills (d : Draw) : Bool :=
  match d.result with
  | .ok _ => false
  | .error _ => !d.pulled.isEmpty

theorem kept_of_not_spills {d : Draw} (h : d.spills = false) : d.kept = d.pulled := by
  obtain ⟨pulled, result⟩ := d
  cases result with
  | ok bs => rfl
  | error e => exact (List.isEmpty_iff.mp (by simpa [spills] using h)).symm

theorem length_kept_lt {d : Draw} (h : d.spills = true) : d.kept.length < d.pulled.length := by
  obtain ⟨pulled, result⟩ := d
  cases result with
  | ok bs => cases h
  | error e => exact List.length_pos_iff.mpr (by simpa [spills] using h)

/-- A row of reads keeps all it pulled just where none of them spills. -/
theorem kept_eq_pulled_iff (ds : List Draw) :
    (ds.map kept).flatten = (ds.map pulled).flatten ↔ ∀ d ∈ ds, d.spills = false := by
  -- kept bytes never outnumber pulled ones, so a loss anywhere shows in the lengths
  have hle (ds : List Draw) :
      (ds.map kept).flatten.length ≤ (ds.map pulled).flatten.length := by
    induction ds with
    | nil => exact Nat.le_refl 0
    | cons d ds ih =>
      have hd : d.kept.length ≤ d.pulled.length := by
        cases hs : d.spills with
        | true => exact Nat.le_of_lt (length_kept_lt hs)
        | false => exact Nat.le_of_eq (congrArg List.length (kept_of_not_spills hs))
      simp only [List.map_cons, List.flatten_cons, List.length_append]
      omega
  induction ds with
  | nil => simp
  | cons d ds ih =>
    simp only [List.map_cons, List.flatten_cons, List.forall_mem_cons, ← ih]
    cases hs : d.spills with
    | true =>
      refine ⟨fun h => ?_, fun h => nomatch h.1⟩
      have hlength := congrArg List.length h
      have hlost := length_kept_lt hs
      have hrest := hle ds
      rw [List.length_append, List.length_append] at hlength
      omega
    | false => rw [kept_of_not_spills hs, List.append_cancel_left_eq, eq_self, true_and]

end Draw

/-- A reader over pieces that holds some bytes already. -/
abbrev ofPieces (p : Pieces) (held : Bytes) : Reader := ⟨.pieces p, held, false⟩

/-- One read, with what it pulled. -/
def draw (r : Reader) (size : Int) : Draw :=
  ⟨(r.read (some size)).next.past.drop r.past.length, (r.read (some size)).result⟩

/-- **A row of reads:** what each of them did, and the reader after them.  A read that fails does not end
the row. -/
def draws : List Int → Reader → List Draw × Reader
  | [], r => ([], r)
  | size :: sizes, r =>
    let later := draws sizes (r.read (some size)).next
    (r.draw size :: later.1, later.2)

/-! ## One read -/

/-- A piece that is pulled goes behind what is there. -/
theorem gather_of_part {limit : Option Nat} {acc part : Bytes} {p next : Pieces}
    {notices : List Notice} (hl : ¬limit.any (· ≤ acc.length) = true)
    (hp : p.pull = ⟨.ok (some part), next, notices⟩) :
    gather limit acc p = gather limit (acc ++ part) next := by
  rw [gather, if_neg hl]
  split
  · rename_i part' next' notices' hp'
    obtain ⟨hpart, rfl, -⟩ := Outcome.mk.inj (hp.symm.trans hp')
    rw [Option.some.inj (Except.ok.inj hpart)]
  · rename_i hp'
    cases hp.symm.trans hp'
  · rename_i hp'
    cases hp.symm.trans hp'

/-- Where more is needed and the source is broken, all that is there is given up. -/
theorem gather_of_broken {limit : Option Nat} {acc : Bytes} {p : Pieces}
    (hl : ¬limit.any (· ≤ acc.length) = true) (hbroken : p.isBroken = true) :
    gather limit acc p = ⟨.error .connectionReset, p, []⟩ := by
  have hp : p.pull = ⟨.error .connectionReset, p, []⟩ := by rw [Pieces.pull, if_pos hbroken]
  rw [gather, if_neg hl]
  split
  · rename_i hp'
    cases hp.symm.trans hp'
  · rename_i hp'
    cases hp.symm.trans hp'
  · rename_i hp'
    obtain ⟨he, rfl, -⟩ := Outcome.mk.inj (hp.symm.trans hp')
    rw [Except.error.inj he]

/-- **The balance of gathering:** what is there in the end is what was there and what was pulled; a failure
finds the source broken. -/
theorem gather_balance (limit : Option Nat) (acc : Bytes) (p : Pieces) :
    ∃ pulled, (gather limit acc p).next.past = p.past ++ pulled
      ∧ (p.isBroken = true → (gather limit acc p).next = p)
      ∧ ((gather limit acc p).result = .ok (acc ++ pulled)
        ∨ ((∃ e, (gather limit acc p).result = .error e)
          ∧ (gather limit acc p).next.isBroken = true)) := by
  fun_induction gather limit acc p with
  | case1 acc p hl => exact ⟨[], by simp, fun _ => rfl, .inl (by simp)⟩
  | case2 acc p hl part next notices hp ih =>
    obtain ⟨part', hpart, hwhole, hpast⟩ | ⟨hend, -⟩ | ⟨⟨e, he⟩, -⟩ := p.past_pull
    · rw [hp] at hpart hpast
      obtain rfl : part = part' := Option.some.inj (Except.ok.inj hpart)
      obtain ⟨pulled, hnext, -, hresult⟩ := ih
      refine ⟨part ++ pulled, ?_, fun hbroken => ?_, ?_⟩
      · rw [hnext, show next.past = p.past ++ part from hpast, List.append_assoc]
      · rw [hbroken] at hwhole
        cases hwhole
      · rwa [← List.append_assoc]
    · rw [hp] at hend
      cases hend
    · rw [hp] at he
      cases he
  | case3 acc p hl next notices hp =>
    obtain ⟨part, hpart, -⟩ | ⟨-, hnext⟩ | ⟨⟨e, he⟩, -⟩ := p.past_pull
    · rw [hp] at hpart
      cases hpart
    · rw [hp] at hnext
      obtain rfl : next = p := hnext
      exact ⟨[], by simp, fun _ => rfl, .inl (by simp)⟩
    · rw [hp] at he
      cases he
  | case4 acc p hl e next notices hp =>
    obtain ⟨part, hpart, -⟩ | ⟨hend, -⟩ | ⟨-, hnext, hbroken⟩ := p.past_pull
    · rw [hp] at hpart
      cases hpart
    · rw [hp] at hend
      cases hend
    · rw [hp] at hnext
      obtain rfl : next = p := hnext
      exact ⟨[], by simp, fun _ => rfl, .inr ⟨⟨e, rfl⟩, hbroken⟩⟩

/-- A read over pieces, by what gathering comes to. -/
theorem read_ofPieces (p : Pieces) (held : Bytes) (size : Int) :
    (ofPieces p held).read (some size) = match (gather (limitOf size) held p).result with
      | .ok all => ⟨.ok (deliver (limitOf size) all).1,
          ofPieces (gather (limitOf size) held p).next (deliver (limitOf size) all).2, []⟩
      | .error e => ⟨.error e, ofPieces (gather (limitOf size) held p).next held, []⟩ := rfl

/-- **The balance of a read:** either it delivers and holds what was held and what it pulled, or it fails,
holds what was held, and has met the break. -/
theorem read_balance (p : Pieces) (held : Bytes) (size : Int) :
    ∃ q held' pulled, ((ofPieces p held).read (some size)).next = ofPieces q held'
      ∧ q.past = p.past ++ pulled ∧ (p.isBroken = true → q = p)
      ∧ ((∃ bs, ((ofPieces p held).read (some size)).result = .ok bs ∧ bs ++ held' = held ++ pulled)
        ∨ (∃ e, ((ofPieces p held).read (some size)).result = .error e)
          ∧ held' = held ∧ q.isBroken = true) := by
  obtain ⟨pulled, hpast, hstays, hok | ⟨⟨e, he⟩, hbroken⟩⟩ := gather_balance (limitOf size) held p
  · rw [read_ofPieces, hok]
    exact ⟨_, _, pulled, rfl, hpast, hstays, .inl ⟨_, rfl, deliver_append _ _⟩⟩
  · rw [read_ofPieces, he]
    exact ⟨_, held, pulled, rfl, hpast, hstays, .inr ⟨⟨e, rfl⟩, rfl, hbroken⟩⟩

/-- The balance of a read, as its draw shows it. -/
theorem draw_balance (p : Pieces) (held : Bytes) (size : Int) :
    ∃ q held', ((ofPieces p held).read (some size)).next = ofPieces q held'
      ∧ q.past = p.past ++ ((ofPieces p held).draw size).pulled
      ∧ ((ofPieces p held).draw size).delivered ++ held' = held ++ ((ofPieces p held).draw size).kept
      ∧ (p.isBroken = true → q = p)
      ∧ (((ofPieces p held).draw size).spills = true → q.isBroken = true) := by
  obtain ⟨q, held', pulled, hnext, hpast, hstays, hresult⟩ := read_balance p held size
  have hpulled : ((ofPieces p held).draw size).pulled = pulled := by
    show ((ofPieces p held).read (some size)).next.past.drop p.past.length = pulled
    rw [hnext]
    show q.past.drop p.past.length = pulled
    rw [hpast, List.drop_left]
  refine ⟨q, held', hnext, by rw [hpulled, hpast], ?_, hstays, fun hspills => ?_⟩
  · obtain ⟨bs, hbs, hbalance⟩ | ⟨⟨e, he⟩, rfl, -⟩ := hresult
    · rw [Draw.delivered, Draw.kept, hpulled, show ((ofPieces p held).draw size).result = .ok bs from hbs]
      exact hbalance
    · rw [Draw.delivered, Draw.kept, show ((ofPieces p held').draw size).result = .error e from he]
      exact (List.append_nil _).symm
  · obtain ⟨bs, hbs, -⟩ | ⟨-, -, hbroken⟩ := hresult
    · rw [Draw.spills, show ((ofPieces p held).draw size).result = .ok bs from hbs] at hspills
      cases hspills
    · exact hbroken

/-- A READ THAT WHAT IS HELD CAN SERVE does not touch the source, whole or broken. -/
theorem read_held {p : Pieces} {held : Bytes} {n : Nat} (h : n ≤ held.length) :
    (ofPieces p held).read (some (n : Int)) = ⟨.ok (held.take n), ofPieces p (held.drop n), []⟩ := by
  have hlimit : limitOf (n : Int) = some n := if_neg (by omega)
  have hgather : gather (some n) held p = ⟨.ok held, p, []⟩ := by
    rw [gather, if_pos (by simpa using h)]
  rw [read_ofPieces, hlimit, hgather]
  rfl

/-! ## Rows of reads -/

/-- Over a source that is broken nothing is spilt: there is nothing to pull. -/
theorem spills_of_broken {p : Pieces} (hbroken : p.isBroken = true) (held : Bytes)
    (sizes : List Int) : ∀ d ∈ (draws sizes (ofPieces p held)).1, d.spills = false := by
  induction sizes generalizing held with
  | nil => exact List.forall_mem_nil _
  | cons size sizes ih =>
    obtain ⟨q, held', hnext, hpast, -, hstays, -⟩ := draw_balance p held size
    obtain rfl : q = p := hstays hbroken
    have hpulled : ((ofPieces q held).draw size).pulled = [] := List.append_right_eq_self.mp hpast.symm
    refine List.forall_mem_cons.mpr ⟨?_, ?_⟩
    · rw [Draw.spills, hpulled]
      split <;> rfl
    · rw [hnext]
      exact ih held'

/-- **The balance of a row of reads.**  By induction on the row: the books of a read and of those after it add
up, and the read that spills is the one that meets the break. -/
theorem draws_balance (p : Pieces) (held : Bytes) (sizes : List Int) :
    let ds := (draws sizes (ofPieces p held)).1
    ∃ q held', (draws sizes (ofPieces p held)).2 = ofPieces q held'
      ∧ q.past = p.past ++ (ds.map Draw.pulled).flatten
      ∧ (ds.map Draw.delivered).flatten ++ held' = held ++ (ds.map Draw.kept).flatten
      ∧ (p.isBroken = true → q.isBroken = true)
      ∧ (q.isBroken = false → ∀ d ∈ ds, d.spills = false)
      ∧ (ds.filter Draw.spills).length ≤ 1 := by
  induction sizes generalizing p held with
  | nil =>
    exact ⟨p, held, rfl, (List.append_nil _).symm, (List.append_nil _).symm, id,
      fun _ => List.forall_mem_nil _, Nat.zero_le 1⟩
  | cons size sizes ih =>
    obtain ⟨q, held', hnext, hpast, hdelivered, hstays, hspills⟩ := draw_balance p held size
    obtain ⟨last, held'', hlast, hpast', hdelivered', hbroken, hwhole, honce⟩ := ih q held'
    have hdraws : draws (size :: sizes) (ofPieces p held)
        = ((ofPieces p held).draw size :: (draws sizes (ofPieces q held')).1, ofPieces last held'') := by
      rw [draws, hnext, hlast]
    rw [hdraws]
    refine ⟨last, held'', rfl, ?_, ?_, fun h => ?_, fun h => ?_, ?_⟩
    · rw [hpast', hpast, List.append_assoc]
      rfl
    · show (_ ++ (List.map Draw.delivered _).flatten) ++ held''
        = held ++ (_ ++ (List.map Draw.kept _).flatten)
      rw [List.append_assoc, hdelivered', ← List.append_assoc, hdelivered, List.append_assoc]
    · exact hbroken ((hstays h).symm ▸ h)
    · refine List.forall_mem_cons.mpr ⟨Bool.eq_false_iff.mpr fun hd => ?_, hwhole h⟩
      rw [hbroken (hspills hd)] at h
      cases h
    · cases hd : ((ofPieces p held).draw size).spills with
      | true =>
        -- this read met the break, so those after it spill nothing
        have hnone : (draws sizes (ofPieces q held')).1.filter Draw.spills = [] :=
          List.filter_eq_nil_iff.mpr fun d hmem => by
            rw [spills_of_broken (hspills hd) held' sizes d hmem]
            decide
        rw [List.filter_cons_of_pos hd, hnone]
        exact Nat.le_refl 1
      | false =>
        rw [List.filter_cons_of_neg (by rw [hd]; decide)]
        exact honce

/-- **What a row of reads loses.**  For any pieces, whole or breaking, and reads of any sizes: what is
delivered, and held in the end, is what was held and what the reads that succeeded pulled.  That is ALL that
was pulled just where no read spills; at most one does, and none over a source that is whole in the end.
What is held can be read, even then. -/
theorem draws_spill (p : Pieces) (held : Bytes) (sizes : List Int) :
    let ds := (draws sizes (ofPieces p held)).1
    ∃ q held', (draws sizes (ofPieces p held)).2 = ofPieces q held'
      ∧ q.past = p.past ++ (ds.map Draw.pulled).flatten
      ∧ (ds.map Draw.delivered).flatten ++ held' = held ++ (ds.map Draw.kept).flatten
      ∧ ((ds.map Draw.delivered).flatten ++ held' = held ++ (ds.map Draw.pulled).flatten
        ↔ ∀ d ∈ ds, d.spills = false)
      ∧ (ds.filter Draw.spills).length ≤ 1
      ∧ (q.isBroken = false → ∀ d ∈ ds, d.spills = false)
      ∧ ∀ n ≤ held'.length, (ofPieces q held').read (some (n : Int))
          = ⟨.ok (held'.take n), ofPieces q (held'.drop n), []⟩ := by
  intro ds
  obtain ⟨q, held', hlast, hpast, hdelivered, -, hwhole, honce⟩ := draws_balance p held sizes
  refine ⟨q, held', hlast, hpast, hdelivered, ?_, honce, hwhole, fun n hn => read_held hn⟩
  rw [hdelivered, List.append_cancel_left_eq]
  exact Draw.kept_eq_pulled_iff ds

/-- A BREAK LOSES WHAT WAS PULLED FOR THE SAME READ: three bytes are asked for, two were pulled when the
source broke, and neither is delivered or held after it. -/
theorem draws_spill_piece :
    let p : Pieces := { parts := [[97, 98], [99, 100]], failAfter := some 1 }
    let out := draws [3, 1] (ofPieces p [])
    out.2.past = [97, 98]
      ∧ out.1.map Draw.result = [.error .connectionReset, .error .connectionReset]
      ∧ (out.1.map Draw.delivered).flatten ++ out.2.held ≠ out.2.past := by
  intro p out
  let q : Pieces := { p with pulled := 1 }
  have hfirst : (ofPieces p []).read (some 3) = ⟨.error .connectionReset, ofPieces q [], []⟩ := by
    have hgather : gather (limitOf 3) [] p = ⟨.error .connectionReset, q, []⟩ := by
      rw [gather_of_part (by decide) (rfl : p.pull = ⟨.ok (some [97, 98]), q, []⟩),
        gather_of_broken (by decide) rfl]
    rw [read_ofPieces, hgather]
  have hsecond : (ofPieces q []).read (some 1) = ⟨.error .connectionReset, ofPieces q [], []⟩ := by
    rw [read_ofPieces, gather_of_broken (by decide) rfl]
  have hout : out = ([⟨[97, 98], .error .connectionReset⟩, ⟨[], .error .connectionReset⟩],
      ofPieces q []) := by
    show draws [3, 1] (ofPieces p []) = _
    simp only [draws, draw, hfirst, hsecond]
    rfl
  rw [hout]
  exact ⟨rfl, rfl, nofun⟩

end Reader

end SigV4
