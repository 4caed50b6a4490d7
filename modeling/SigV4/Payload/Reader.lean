/-
  READERS: asynchronous reading by size from any source.

  A reader over a buffer or a stream passes each read on.  A reader over pieces pulls as many as it
  needs and HOLDS what was pulled and not asked for; what it holds is delivered first.  A read that
  fails delivers nothing, and leaves what was held before it.

  1. **Reading** — `Reader.read` by size, without limit for a negative one.
  2. **Blocks** — iterating over a reader gives blocks of `blockSize` bytes, the last one shorter.
  3. **Closing** — `close` closes the source too, where it can be closed; a closed reader cannot be
     read.

  A reader over a reader does nothing of its own, so it is the same reader.
-/
import SigV4.Payload.Source

namespace SigV4

/-- An asynchronous reader. -/
structure Reader where
  source : Source
  /-- Bytes that were pulled from pieces and not asked for. -/
  held : Bytes := []
  closed : Bool := false

namespace Reader

/-- The size of the blocks of an iteration. -/
def blockSize : Nat := 1024

/-! ## Reading -/

/-- Pulls pieces behind `acc` until there are `limit` bytes; without a limit, all of them. -/
def gather (limit : Option Nat) (acc : Bytes) (p : Pieces) : Outcome Pieces Bytes :=
  if limit.any (· ≤ acc.length) then ⟨.ok acc, p, []⟩
  else
    match _ : p.pull with
    | ⟨.ok (some part), next, _⟩ => gather limit (acc ++ part) next
    | ⟨.ok none, next, _⟩ => ⟨.ok acc, next, []⟩
    | ⟨.error e, next, _⟩ => ⟨.error e, next, []⟩
termination_by p.weight
decreasing_by
  rename_i h
  have := p.pull_lightens
  rw [h] at this
  exact this.2

/-- The limit that a size sets. -/
def limitOf (size : Int) : Option Nat := if size < 0 then none else some size.toNat

/-- Delivers up to the limit and holds the rest. -/
def deliver (limit : Option Nat) (all : Bytes) : Bytes × Bytes :=
  match limit with
  | some n => (all.take n, all.drop n)
  | none => (all, [])

/-- **Reads** so many bytes; all that are left for a negative size.  Pieces cannot be read without
a size. -/
def read (r : Reader) (size : Option Int) : Outcome Reader Bytes :=
  if r.closed then ⟨.error .readerClosed, r, []⟩
  else
    match r.source with
    | .buffer b =>
      match b.read size with
      | .ok (bs, next) => ⟨.ok bs, { r with source := .buffer next }, []⟩
      | .error e => ⟨.error e, r, []⟩
    | .stream s =>
      ⟨(s.read size).1, { r with source := .stream (s.read size).2 }, []⟩
    | .pieces p =>
      match size with
      | none => ⟨.error .sourceUnusable, r, []⟩
      | some n =>
        let o := gather (limitOf n) r.held p
        match o.result with
        | .ok all =>
          ⟨.ok (deliver (limitOf n) all).1,
            { r with source := .pieces o.next, held := (deliver (limitOf n) all).2 }, []⟩
        | .error e => ⟨.error e, { r with source := .pieces o.next }, []⟩

/-- The next block of an iteration, or the end. -/
def pull (size : Nat) (r : Reader) : Outcome Reader (Option Bytes) :=
  (r.read (some size)).map Bytes.nonempty?

/-! ## Closing -/

/-- **Closes** the reader, and its source where that can be closed. -/
def close (r : Reader) : Reader :=
  if r.closed then r
  else
    match r.source with
    | .buffer b => { r with source := .buffer b.close, closed := true }
    | .stream s => { r with source := .stream s.close, closed := true }
    | .pieces _ => { r with closed := true }

/-- Reads each of the sizes, and closes the reader in the end, also when a read fails. -/
def readAllAndClose (r : Reader) : List (Option Int) → Outcome Reader (List Bytes)
  | [] => ⟨.ok [], r.close, []⟩
  | size :: sizes =>
    let o := r.read size
    match o.result with
    | .ok bs => (o.next.readAllAndClose sizes).map (bs :: ·)
    | .error e => ⟨.error e, o.next.close, []⟩

/-! ## The weight of a reader -/

/-- What the reader holds, and what its source still has. -/
def weight (r : Reader) : Nat := r.held.length + r.source.weight

theorem gather_weight (limit : Option Nat) (acc : Bytes) (p : Pieces) {all : Bytes}
    (h : (gather limit acc p).result = .ok all) :
    all.length + (gather limit acc p).next.weight ≤ acc.length + p.weight := by
  fun_induction gather limit acc p with
  | case1 acc p hl => simp_all
  | case2 acc p hl part next ns hp ih =>
    have := p.pull_lightens
    rw [hp] at this
    have hw : next.weight + part.length ≤ p.weight := this.1
    have := ih h
    rw [List.length_append] at this
    omega
  | case3 acc p hl next ns hp =>
    have := p.pull_lightens
    rw [hp] at this
    simp only [Except.ok.injEq] at h
    subst h
    have hw : next.weight ≤ p.weight := this
    show acc.length + next.weight ≤ _
    omega
  | case4 => simp at h

theorem length_deliver (limit : Option Nat) (all : Bytes) :
    (deliver limit all).1.length + (deliver limit all).2.length = all.length := by
  unfold deliver
  split
  · simp only [List.length_take, List.length_drop]; omega
  · simp

/-- A read takes what it delivers off the weight. -/
theorem read_weight (r : Reader) (size : Option Int) {bs : Bytes}
    (h : (r.read size).result = .ok bs) :
    (r.read size).next.weight + bs.length ≤ r.weight := by
  unfold read at h ⊢
  split at h
  · simp at h
  · rename_i hc
    simp only [if_neg hc]
    split at h
    · rename_i b hs
      split at h
      · rename_i out next hb
        simp only [Except.ok.injEq] at h
        subst h
        simp only [weight, hs, Source.weight]
        simp only [Buffer.read] at hb
        split at hb
        · simp at hb
        · split at hb
          · simp at hb
          · simp only [Except.ok.injEq, Prod.mk.injEq] at hb
            obtain ⟨rfl, rfl⟩ := hb
            have := Buffer.length_portion_le size b.rest
            rw [Buffer.length_rest] at this
            simp only
            omega
      · simp at h
    · rename_i s hs
      simp only [Stream.read] at h
      split at h
      · simp at h
      · rename_i hf
        simp only [Except.ok.injEq] at h
        subst h
        have := s.length_portion_le size
        simp only [weight, hs, Source.weight, Stream.read, if_neg hf, Stream.advance,
          Stream.noteRead]
        omega
    · rename_i p hs
      cases size with
      | none => simp at h
      | some n =>
        simp only at h ⊢
        split at h
        · rename_i all ha
          simp only [Except.ok.injEq] at h
          subst h
          have hw := gather_weight _ _ _ ha
          have hd := length_deliver (limitOf n) all
          simp only [weight, hs, Source.weight]
          omega
        · simp at h

theorem pull_lightens (size : Nat) (r : Reader) : (r.pull size).Lightens weight r.weight :=
  Outcome.lightens_of_read fun _ h => r.read_weight (some size) h

instance : Supply Reader := ⟨pull, weight, pull_lightens⟩

end Reader

end SigV4
