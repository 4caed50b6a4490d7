/-
  SUPPLIES: states from which bytes can be pulled until there are none.

  A supply has a WEIGHT, a bound on what can still be pulled: a pull that delivers bytes takes at
  least their number off it, and something even if they are none; a pull that finds the end adds
  nothing.  So whoever pulls until the end, or until there is enough, will come to the end, and
  the loops over supplies need no other reason to stop.
-/
import SigV4.Bytes
import SigV4.Outcome

namespace SigV4

/-- The law of a pull: bytes that are delivered are taken off the weight. -/
def Outcome.Lightens {σ : Type} (weight : σ → Nat) (before : Nat)
    (o : Outcome σ (Option Bytes)) : Prop :=
  match o.result with
  | .ok (some bs) => weight o.next + bs.length ≤ before ∧ weight o.next < before
  | .ok none => weight o.next ≤ before
  | .error _ => True

/-- What was read by size: an empty read is the end. -/
def Bytes.nonempty? (bs : Bytes) : Option Bytes := if bs.isEmpty then none else some bs

/-- A READ THAT PAYS FOR WHAT IT DELIVERS is a pull that obeys the law. -/
theorem Outcome.lightens_of_read {σ : Type} {weight : σ → Nat} {before : Nat}
    {o : Outcome σ Bytes}
    (h : ∀ bs, o.result = .ok bs → weight o.next + bs.length ≤ before) :
    (o.map Bytes.nonempty?).Lightens weight before := by
  unfold Outcome.Lightens
  cases hr : o.result with
  | error e => simp [Outcome.map, hr, Except.map]
  | ok bs =>
    have := h bs hr
    cases bs with
    | nil => simpa [Outcome.map, hr, Except.map, Bytes.nonempty?] using this
    | cons b bs =>
      simp only [Outcome.map, hr, Except.map, Bytes.nonempty?, List.isEmpty_cons,
        Bool.false_eq_true, if_false, List.length_cons] at this ⊢
      omega

/-- A state from which bytes can be pulled. -/
class Supply (σ : Type) where
  /-- Asks for so many bytes, and gets some, or none at the end. -/
  pull : Nat → σ → Outcome σ (Option Bytes)
  /-- A bound on what is left. -/
  weight : σ → Nat
  pull_lightens : ∀ size s, (pull size s).Lightens weight (weight s)

namespace Supply

variable {σ : Type} [Supply σ]

theorem weight_lt {size : Nat} {s : σ} {o : Outcome σ (Option Bytes)} {bs : Bytes}
    (h : pull size s = o) (hr : o.result = .ok (some bs)) : weight o.next < weight s := by
  have := pull_lightens size s
  rw [h, Outcome.Lightens, hr] at this
  exact this.2

theorem weight_add_le {size : Nat} {s : σ} {o : Outcome σ (Option Bytes)} {bs : Bytes}
    (h : pull size s = o) (hr : o.result = .ok (some bs)) :
    weight o.next + bs.length ≤ weight s := by
  have := pull_lightens size s
  rw [h, Outcome.Lightens, hr] at this
  exact this.1

theorem weight_le {size : Nat} {s : σ} {o : Outcome σ (Option Bytes)}
    (h : pull size s = o) (hr : o.result = .ok none) : weight o.next ≤ weight s := by
  have := pull_lightens size s
  rw [h, Outcome.Lightens, hr] at this
  exact this

/-- **Everything that is left,** pulled in portions of one size. -/
def drain (size : Nat) (s : σ) : Outcome σ (List Bytes) :=
  match _ : pull size s with
  | ⟨.ok (some bs), next, notices⟩ => ((drain size next).map (bs :: ·)).after notices
  | ⟨.ok none, next, notices⟩ => ⟨.ok [], next, notices⟩
  | ⟨.error e, next, notices⟩ => ⟨.error e, next, notices⟩
termination_by weight s
decreasing_by
  rename_i h
  exact weight_lt h rfl

end Supply

end SigV4
