/-
  STEADY payloads: what comes of a framed payload while its feed does not fail.

  `Remaining` says what reading takes when it succeeds.  Here it SUCCEEDS: under `Steady` every frame
  that is asked for comes, so a read by size delivers exactly the next bytes (`readSized_steady`) and
  an iteration delivers every frame (`frames_steady`).  A steady payload is a steady supply again
  (`steady_pull`), so the same holds of payloads within payloads.
-/
import SigV4.Proofs.Payload.Remaining

namespace SigV4.Framed

variable {σ : Type} [Supply σ] [Stock σ]

/-- A payload whose feed fails no more. -/
def Steady (p : Framed σ) : Prop := p.exhausted = true ∨ Supply.Steady p.cutSize p.feed

omit [Stock σ] in
theorem fill_steady {p : Framed σ} (h : p.Steady) :
    (∃ u, p.fill.result = .ok u) ∧ p.fill.next.Steady := by
  fun_induction fill p with
  | case1 p hc => exact ⟨⟨(), rfl⟩, h⟩
  | case2 p hc bs feed notices hp ih =>
    have he : ¬p.exhausted = true := fun e => hc (by simp [e])
    refine ih (Or.inr ?_)
    rcases (h.resolve_left he).pull with ⟨_, -, hs⟩ | hr
    · rw [hp] at hs
      exact hs
    · rw [hp] at hr
      cases hr
  | case3 p hc feed notices hp => exact ⟨⟨(), rfl⟩, Or.inl rfl⟩
  | case4 p hc e feed notices hp =>
    have he : ¬p.exhausted = true := fun e => hc (by simp [e])
    rcases (h.resolve_left he).pull with ⟨_, hr, -⟩ | hr
    · rw [hp] at hr
      cases hr
    · rw [hp] at hr
      cases hr

/-- While the feed does not fail, EVERY FRAME THAT IS ASKED FOR COMES. -/
theorem nextFrame_steady {p : Framed σ} (h : p.Exact) (hs : p.Steady) :
    (∃ item, p.nextFrame.result = .ok item) ∧ p.nextFrame.next.Steady := by
  obtain ⟨⟨u, hu⟩, hsf⟩ := fill_steady hs
  cases asked_nextFrame h.toSound with
  | ended state result next =>
    rw [next]
    exact ⟨⟨none, result⟩, hs⟩
  | failed e state fill filled result =>
    rw [hu] at fill
    cases fill
  | refused q e state fill filled slice wrong result next =>
    rw [lengthFault_eq_none h filled slice] at wrong
    cases wrong
  | made q state fill filled slice right result next =>
    rw [fill] at hsf
    rw [next]
    exact ⟨⟨_, result⟩, hsf⟩

theorem gather_steady (size : Nat) {p : Framed σ} (h : p.Exact) (hs : p.Steady) :
    (∃ u, (gather size p).result = .ok u) ∧ (gather size p).next.Steady := by
  fun_induction gather size p with
  | case1 p hl => exact ⟨⟨(), rfl⟩, hs⟩
  | case2 p hl frame next notices hn ih =>
    have hx : next.Exact := (hn ▸ nextFrame_takes h).1
    have hs' : next.Steady := (hn ▸ nextFrame_steady h hs).2
    exact ih (hx.pend _) hs'
  | case3 p hl next notices hn => exact ⟨⟨(), rfl⟩, (hn ▸ nextFrame_steady h hs).2⟩
  | case4 p hl e next notices hn =>
    obtain ⟨⟨item, hi⟩, -⟩ := hn ▸ nextFrame_steady h hs
    cases hi

/-- While the feed does not fail, a read by size SUCCEEDS. -/
theorem readSized_steady (size : Nat) {p : Framed σ} (h : p.Exact) (hs : p.Steady) :
    (p.readSized size).result = .ok (p.remaining.take size)
      ∧ (p.readSized size).next.Steady := by
  have ht := (readSized_takes size h).2
  obtain ⟨⟨u, hu⟩, hsg⟩ := gather_steady size h hs
  unfold readSized Outcome.andThen at ht ⊢
  rw [hu] at ht ⊢
  exact ⟨congrArg Except.ok ht.1, hsg⟩

/-- While the feed does not fail, an iteration DELIVERS ALL FRAMES. -/
theorem frames_steady {p : Framed σ} (h : p.Exact) (hs : p.Steady) :
    (frames p).result = .ok p.framesLeft := by
  have ht := (frames_takes h).2.2
  have hok : ∃ made, (frames p).result = .ok made := by
    clear ht
    fun_induction frames p with
    | case1 p frame next notices hn ih =>
      have hx : next.Exact := (hn ▸ nextFrame_takes h).1
      obtain ⟨made, hm⟩ := ih hx (hn ▸ nextFrame_steady h hs).2
      exact ⟨frame :: made, by simp [hm, Except.map]⟩
    | case2 p next notices hn => exact ⟨[], rfl⟩
    | case3 p e next notices hn =>
      obtain ⟨⟨item, hi⟩, -⟩ := hn ▸ nextFrame_steady h hs
      cases hi
  obtain ⟨made, hm⟩ := hok
  rw [hm] at ht ⊢
  rw [ht.1]

/-- A framed payload whose feed does not fail IS A STEADY SUPPLY, for reads of any size. -/
theorem steady_pull (size : Nat) {p : Framed σ} (h : p.Exact) (hs : p.Steady) :
    Supply.Steady size p := by
  refine Supply.steady_of_invariant (fun q : Framed σ => q.Exact ∧ q.Steady) ?_ ⟨h, hs⟩
  rintro q ⟨hq, hqs⟩
  obtain ⟨hr, hn⟩ := readSized_steady size hq hqs
  refine ⟨⟨Bytes.nonempty? (q.remaining.take size), ?_⟩, honest_pull size q hq, hn⟩
  show ((q.readSized size).result.map Bytes.nonempty?) = _
  rw [hr]
  rfl

end SigV4.Framed
