/-
  SOURCES: where the plain bytes of a payload come from.

  A source is a buffer, a stream, or a payload in pieces.  Buffers and streams are read by size and
  are at their end when a read is empty; pieces come in sizes of their own, empty ones too, and have
  an end of their own.
-/
import SigV4.Payload.Pieces

namespace SigV4

/-- A source of plain bytes. -/
inductive Source where
  | buffer (b : Buffer)
  | stream (s : Stream)
  | pieces (p : Pieces)

namespace Source

/-- Who made the source. -/
def origin : Source → Origin
  | buffer b => b.origin
  | stream _ => .caller
  | pieces p => p.origin

/-- **Pulls** bytes, so many if the source is read by size. -/
def pull (size : Nat) : Source → Outcome Source (Option Bytes)
  | buffer b =>
    match b.read (some size) with
    | .ok (bs, next) => ⟨.ok (Bytes.nonempty? bs), buffer next, []⟩
    | .error e => ⟨.error e, buffer b, []⟩
  | stream s => ⟨(s.read (some size)).1.map Bytes.nonempty?, stream (s.read (some size)).2, []⟩
  | pieces p => p.pull.within pieces

/-- How many bytes are left, counting one more for each piece. -/
def weight : Source → Nat
  | buffer b => b.data.length - b.pos
  | stream s => s.data.length - s.pos
  | pieces p => p.weight

theorem pull_lightens (size : Nat) (s : Source) : (s.pull size).Lightens weight s.weight := by
  match s with
  | buffer b =>
    simp only [pull]
    split
    · rename_i bs next h
      simp only [Buffer.read] at h
      split at h
      · simp at h
      · split at h
        · simp at h
        · simp only [Except.ok.injEq, Prod.mk.injEq] at h
          obtain ⟨rfl, rfl⟩ := h
          have hl := Buffer.length_portion_le (some (size : Int)) b.rest
          rw [Buffer.length_rest] at hl
          cases hb : Buffer.portion (some (size : Int)) b.rest with
          | nil => simp [Outcome.Lightens, Bytes.nonempty?, weight]
          | cons c cs =>
            rw [hb, List.length_cons] at hl
            simp only [Outcome.Lightens, Bytes.nonempty?, weight, List.isEmpty_cons, if_false,
              Bool.false_eq_true, List.length_cons]
            omega
    · trivial
  | stream s =>
    simp only [pull, Stream.read]
    split
    · trivial
    · have hl := s.length_portion_le (some (size : Int))
      cases hb : s.portion (some (size : Int)) with
      | nil =>
        simp [Except.map, Outcome.Lightens, Bytes.nonempty?, weight, Stream.advance, Stream.noteRead]
      | cons c cs =>
        rw [hb, List.length_cons] at hl
        simp only [Except.map, Outcome.Lightens, Bytes.nonempty?, weight, Stream.advance,
          Stream.noteRead, List.isEmpty_cons, if_false, Bool.false_eq_true, List.length_cons]
        omega
  | pieces p => exact p.pull_lightens

instance : Supply Source := ⟨pull, weight, pull_lightens⟩

end Source

end SigV4
