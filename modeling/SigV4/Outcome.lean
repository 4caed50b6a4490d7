/-
  OUTCOMES: what an action on a state leaves behind.

  Reading a payload can fail half-way, and what was read until then stays read.  So the state after
  an action is there whether the action succeeds or not, and with it the notices that were given, in
  order.
-/
import SigV4.Fault
import SigV4.Notice

namespace SigV4

/-- The result of an action, the state after it, and the notices on the way. -/
structure Outcome (σ α : Type) where
  result : Except Fault α
  next : σ
  notices : List Notice := []

namespace Outcome

variable {σ τ α β : Type}

/-- The outcome behind notices that were given before. -/
def after (o : Outcome σ α) (earlier : List Notice) : Outcome σ α :=
  { o with notices := earlier ++ o.notices }

/-- The outcome with its result, if there is one, changed. -/
def map (f : α → β) (o : Outcome σ α) : Outcome σ β := ⟨o.result.map f, o.next, o.notices⟩

/-- The outcome for a larger state that holds this one. -/
def within (f : σ → τ) (o : Outcome σ α) : Outcome τ α := ⟨o.result, f o.next, o.notices⟩

/-- **One action after the other;** the second is not tried if the first fails. -/
def andThen (o : Outcome σ α) (f : α → σ → Outcome σ β) : Outcome σ β :=
  match o.result with
  | .ok a => (f a o.next).after o.notices
  | .error e => ⟨.error e, o.next, o.notices⟩

@[simp] theorem result_after (o : Outcome σ α) (ns : List Notice) :
    (o.after ns).result = o.result := rfl

@[simp] theorem next_after (o : Outcome σ α) (ns : List Notice) : (o.after ns).next = o.next := rfl

@[simp] theorem result_map (f : α → β) (o : Outcome σ α) :
    (o.map f).result = o.result.map f := rfl

@[simp] theorem next_map (f : α → β) (o : Outcome σ α) : (o.map f).next = o.next := rfl

@[simp] theorem result_within (f : σ → τ) (o : Outcome σ α) : (o.within f).result = o.result := rfl

@[simp] theorem next_within (f : σ → τ) (o : Outcome σ α) : (o.within f).next = f o.next := rfl

end Outcome

end SigV4
