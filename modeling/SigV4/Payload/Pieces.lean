/-
  PIECES: a payload that comes part by part, in the parts' own sizes, and once.

  After a given number of parts the source may break, and from then on every pull fails.
-/
import SigV4.Payload.Stream
import SigV4.Payload.Supply

namespace SigV4

/-- How parts can be asked for. -/
inductive PieceAccess where
  | sync
  | async
  | both
deriving DecidableEq, Repr

/-- A payload in parts. -/
structure Pieces where
  origin : Origin := .caller
  access : PieceAccess := .sync
  seekable : Bool := false
  parts : List Bytes
  /-- How many parts have been pulled. -/
  pulled : Nat := 0
  /-- After how many parts the source breaks. -/
  failAfter : Option Nat := none
deriving DecidableEq, Repr

namespace Pieces

/-- One way of the library's own through parts in memory. -/
def ofParts (parts : List Bytes) : Pieces := { origin := .library, parts := parts }

/-- The parts that have not been pulled. -/
def rest (p : Pieces) : List Bytes := p.parts.drop p.pulled

/-- Whether the source has broken. -/
def isBroken (p : Pieces) : Bool :=
  match p.failAfter with
  | some n => n ≤ p.pulled
  | none => false

/-- **Pulls** the next part. -/
def pull (p : Pieces) : Outcome Pieces (Option Bytes) :=
  if p.isBroken then ⟨.error .connectionReset, p, []⟩
  else match p.rest with
    | part :: _ => ⟨.ok (some part), { p with pulled := p.pulled + 1 }, []⟩
    | [] => ⟨.ok none, p, []⟩

/-- Starts again behind so many parts. -/
def seek (p : Pieces) (pulled : Nat) : Pieces := { p with pulled := pulled }

/-- Whether parts can be asked for without waiting. -/
def isSync (p : Pieces) : Bool := p.access ≠ .async

/-- Whether parts can be waited for. -/
def isAsync (p : Pieces) : Bool := p.access ≠ .sync

/-- The bytes of some parts, and one for each part. -/
def weightOf : List Bytes → Nat
  | [] => 0
  | part :: parts => part.length + 1 + weightOf parts

/-- The bytes of the parts that are left, and one for each part. -/
def weight (p : Pieces) : Nat := weightOf p.rest

theorem rest_pull (p : Pieces) {part : Bytes} {parts : List Bytes} (h : p.rest = part :: parts) :
    ({ p with pulled := p.pulled + 1 } : Pieces).rest = parts := by
  have : p.rest.tail = parts := by rw [h]; rfl
  rw [← this]
  simp [rest, List.tail_drop]

/-- **What a pull can do:** fail at the break, take the first part that is left, or find none. -/
theorem pull_cases (p : Pieces) :
    (p.isBroken = true ∧ p.pull = ⟨.error .connectionReset, p, []⟩)
      ∨ (∃ part, p.isBroken = false ∧ p.rest = part :: (p.seek (p.pulled + 1)).rest
        ∧ p.pull = ⟨.ok (some part), p.seek (p.pulled + 1), []⟩)
      ∨ (p.isBroken = false ∧ p.rest = [] ∧ p.pull = ⟨.ok none, p, []⟩) := by
  unfold pull
  cases hbroken : p.isBroken with
  | true => exact .inl ⟨rfl, rfl⟩
  | false =>
    cases hrest : p.rest with
    | nil => exact .inr (.inr ⟨rfl, rfl, rfl⟩)
    | cons part parts =>
      have hparts : (p.seek (p.pulled + 1)).rest = parts := p.rest_pull hrest
      exact .inr (.inl ⟨part, rfl, by rw [hparts], rfl⟩)

/-- Where a part comes, nothing was broken, and it was the first of those that were left. -/
theorem pull_eq_some {p next : Pieces} {part : Bytes} {notices : List Notice}
    (h : p.pull = ⟨.ok (some part), next, notices⟩) :
    p.isBroken = false ∧ next = p.seek (p.pulled + 1) ∧ p.rest = part :: next.rest := by
  obtain ⟨-, hpull⟩ | ⟨first, hbroken, hrest, hpull⟩ | ⟨-, -, hpull⟩ := p.pull_cases
  · cases hpull.symm.trans h
  · cases hpull.symm.trans h
    exact ⟨hbroken, rfl, hrest⟩
  · cases hpull.symm.trans h

/-- Where no part comes, nothing was broken, and none were left. -/
theorem pull_eq_none {p next : Pieces} {notices : List Notice}
    (h : p.pull = ⟨.ok none, next, notices⟩) : p.isBroken = false ∧ next = p ∧ p.rest = [] := by
  obtain ⟨-, hpull⟩ | ⟨first, -, -, hpull⟩ | ⟨hbroken, hrest, hpull⟩ := p.pull_cases
  · cases hpull.symm.trans h
  · cases hpull.symm.trans h
  · cases hpull.symm.trans h
    exact ⟨hbroken, rfl, hrest⟩

/-- Where a pull fails, the pieces are broken. -/
theorem pull_eq_error {p next : Pieces} {e : Fault} {notices : List Notice}
    (h : p.pull = ⟨.error e, next, notices⟩) : p.isBroken = true ∧ next = p := by
  obtain ⟨hbroken, hpull⟩ | ⟨first, -, -, hpull⟩ | ⟨-, -, hpull⟩ := p.pull_cases
  · cases hpull.symm.trans h
    exact ⟨hbroken, rfl⟩
  · cases hpull.symm.trans h
  · cases hpull.symm.trans h

/-- A pull takes a part's bytes, and one more, off the weight. -/
theorem pull_lightens (p : Pieces) : p.pull.Lightens weight p.weight := by
  obtain ⟨-, hpull⟩ | ⟨part, -, hrest, hpull⟩ | ⟨-, -, hpull⟩ := p.pull_cases
  · rw [hpull]
    trivial
  · rw [hpull, weight, hrest]
    simp only [Outcome.Lightens, weight, weightOf]
    omega
  · rw [hpull]
    exact Nat.le_refl _

end Pieces

end SigV4
