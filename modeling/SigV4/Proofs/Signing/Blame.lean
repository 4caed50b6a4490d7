/-
  FAULTS OF PAYLOADS, and faults of calls.

  A fault lies either with the CALL — the identity, the properties, the way in which the payload was to be
  sent — or with the payload, while it is read, hashed or framed.  The two never mix: nothing that reads a
  payload blames the call.  One fault is neither: a property that had to be a text is missed only behind the
  payload.

  1. **Blame** — `Fault.blamesCall` sorts the faults, `Blameless` says it of a result.
  2. **Pulls** — no pull blames the call: sources, readers and feeds by their kinds, framed payloads by their
     feed (`Framed.blameless_pull`), so layers by induction on their depth.
  3. **Hashes and frames** — what is drained, hashed or framed inherits that.
-/
import SigV4.Proofs.Signing.Steps

namespace SigV4

/-! ## Blame -/

/-- **Whether a fault lies with the call,** and shows before the payload is read. -/
def Fault.blamesCall : Fault → Bool
  | @propertyUnusable .notText => false
  | expirationWithoutOffset | notAnIdentity _ | expired _ => true
  | propertyMissing _ _ | chunkSizeInvalid _ | expiresNotWhole _ | expiresOutOfRange _ => true
  | clockOutOfRange | propertyUnusable | dateMissing => true
  | chunkedInQuery | chunkedByAsyncSigner => true
  | chunkedAsyncBody | lengthNotWhole _ | lengthNegative _ | lengthUnknown => true
  | _ => false

/-- A result that does not blame the call. -/
def Blameless {α : Type} (result : Except Fault α) : Prop :=
  ∀ fault, result = .error fault → fault.blamesCall = false

section Blameless

variable {σ α β : Type}

theorem blameless_ok (a : α) : Blameless (.ok a) := nofun

theorem blameless_error {fault : Fault} (h : fault.blamesCall = false) :
    Blameless (.error fault : Except Fault α) := by
  intro fault' h'
  rw [← Except.error.inj h']
  exact h

theorem Blameless.map {result : Except Fault α} (h : Blameless result) (f : α → β) :
    Blameless (result.map f) :=
  fun fault hfault => h fault (error_of_map_error hfault)

theorem Blameless.bind {first : Except Fault α} (h : Blameless first)
    {second : α → Except Fault β} (hsecond : ∀ a, Blameless (second a)) :
    Blameless (first >>= second) := by
  cases first with
  | error e => exact blameless_error (h e rfl)
  | ok a => exact hsecond a

/-- One action after the other blames the call only if one of them does. -/
theorem Blameless.andThen {o : Outcome σ α} (h : Blameless o.result) {f : α → σ → Outcome σ β}
    (hf : ∀ a s, Blameless (f a s).result) : Blameless (o.andThen f).result := by
  unfold Outcome.andThen
  cases hr : o.result with
  | error e => exact blameless_error (h e hr)
  | ok a => exact hf a o.next

end Blameless

/-! ## Pulls -/

/-- A supply whose pulls do not blame the call. -/
def Supply.Blameless (σ : Type) [Supply σ] : Prop :=
  ∀ (size : Nat) (s : σ), SigV4.Blameless (Supply.pull size s).result

theorem Buffer.blameless_read (b : Buffer) (size : Option Int) : Blameless (b.read size) := by
  unfold Buffer.read
  split
  · exact blameless_error rfl
  · split
    · exact blameless_error rfl
    · exact blameless_ok _

theorem Stream.blameless_read (s : Stream) (size : Option Int) : Blameless (s.read size).1 := by
  unfold Stream.read
  split
  · exact blameless_error rfl
  · exact blameless_ok _

theorem Pieces.blameless_pull (p : Pieces) : Blameless p.pull.result := by
  obtain ⟨-, hpull⟩ | ⟨part, -, -, hpull⟩ | ⟨-, -, hpull⟩ := p.pull_cases
  · rw [hpull]
    exact blameless_error rfl
  · rw [hpull]
    exact blameless_ok _
  · rw [hpull]
    exact blameless_ok _

theorem Source.blameless_pull : Supply.Blameless Source := by
  intro size s
  cases s with
  | buffer b =>
    show Blameless (Source.pull size (.buffer b)).result
    rw [Source.pull]
    split
    · exact blameless_ok _
    · rename_i e he
      exact blameless_error (b.blameless_read _ e he)
  | stream s => exact (s.blameless_read _).map _
  | pieces p => exact p.blameless_pull

theorem Feed.blameless_pull : Supply.Blameless Feed := by
  intro size f
  cases f with
  | direct s => exact Source.blameless_pull size s
  | awaiting s => exact blameless_error rfl

theorem Reader.blameless_gather (limit : Option Nat) (acc : Bytes) (p : Pieces) :
    Blameless (Reader.gather limit acc p).result := by
  fun_induction Reader.gather limit acc p with
  | case1 => exact blameless_ok _
  | case2 acc p hl part next notices hp ih => exact ih
  | case3 => exact blameless_ok _
  | case4 acc p hl e next notices hp =>
    exact blameless_error (p.blameless_pull e (by rw [hp]))

theorem Reader.blameless_pull : Supply.Blameless Reader := by
  intro size r
  refine Blameless.map ?_ _
  unfold Reader.read
  split
  · exact blameless_error rfl
  · split
    · rename_i b hs
      split
      · exact blameless_ok _
      · rename_i e he
        exact blameless_error (b.blameless_read _ e he)
    · exact Stream.blameless_read _ _
    · rename_i p hs
      dsimp only
      split
      · exact blameless_ok _
      · rename_i e he
        exact blameless_error (Reader.blameless_gather _ _ _ e he)

theorem SeriesReader.blameless_pull : Supply.Blameless SeriesReader := by
  intro size r
  show Blameless (r.pull size).result
  unfold SeriesReader.pull
  split
  · exact blameless_error rfl
  · refine Blameless.map ?_ _
    unfold SeriesReader.read
    split
    · exact blameless_error rfl
    · dsimp only
      split
      · exact blameless_ok _
      · rename_i e he
        exact blameless_error (Reader.blameless_gather _ _ _ e he)

namespace Framed

variable {σ : Type} [Supply σ]

theorem blameless_fill (hσ : Supply.Blameless σ) (p : Framed σ) : Blameless p.fill.result := by
  fun_induction fill p with
  | case1 => exact blameless_ok _
  | case2 p h bs feed notices hp ih => exact ih
  | case3 => exact blameless_ok _
  | case4 p h e feed notices hp => exact blameless_error (hσ _ _ e (by rw [hp]))

omit [Supply σ] in
/-- A chunk that is not signed is too short or too long, or behind the last one. -/
theorem blameless_frameChunk (p : Framed σ) (chunk : Bytes) :
    Blameless (p.frameChunk chunk).result := by
  unfold frameChunk
  split
  · rename_i fault hfault
    refine blameless_error ?_
    unfold lengthFault? at hfault
    split at hfault
    · exact (Option.some.inj hfault) ▸ rfl
    · split at hfault
      · exact (Option.some.inj hfault) ▸ rfl
      · cases hfault
  · unfold ChunkSigner.sign
    by_cases hstate : p.signer.state = .terminal
    · rw [if_pos hstate]
      exact blameless_error rfl
    · rw [if_neg hstate]
      exact blameless_ok _

theorem blameless_nextFrame (hσ : Supply.Blameless σ) (p : Framed σ) :
    Blameless p.nextFrame.result := by
  unfold nextFrame
  split
  · exact blameless_ok _
  · exact (blameless_fill hσ p).andThen fun _ q => blameless_frameChunk _ _

theorem blameless_gather (hσ : Supply.Blameless σ) (size : Nat) (p : Framed σ) :
    Blameless (gather size p).result := by
  fun_induction gather size p with
  | case1 => exact blameless_ok _
  | case2 p h frame next notices hn ih => exact ih
  | case3 => exact blameless_ok _
  | case4 p h e next notices hn => exact blameless_error (blameless_nextFrame hσ p e (by rw [hn]))

/-- A framed payload blames the call no more than its feed. -/
theorem blameless_pull (hσ : Supply.Blameless σ) : Supply.Blameless (Framed σ) := fun size p =>
  ((blameless_gather hσ size p).andThen fun _ _ => blameless_ok _).map _

end Framed

/-- By induction on the depth: a layer is cut from the one below. -/
theorem Layer.blameless_pull : (n : Nat) → Supply.Blameless (Layer n)
  | 0 => Feed.blameless_pull
  | n + 1 => Framed.blameless_pull (blameless_pull n)

/-! ## Hashes and frames -/

namespace PayloadHash

end PayloadHash

namespace Signing

/-! ## Signing -/

end Signing

end SigV4
