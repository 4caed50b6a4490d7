/-
  FAILURES: what comes of a framed payload whose feed fails at once.

  A pull that is needed and fails lets the frame fail (`nextFrame_eq_error`), and with it every loop that
  needs the frame.  Where nothing is pending a read then delivers NOTHING (`read_eq_error`).
  `frames_eq_error_of_some` is the failure one frame later: by then that frame is signed, and an
  iteration over all frames does not give it back.
-/
import SigV4.Proofs.Payload.Contents

namespace SigV4.Framed

variable {σ : Type} [Supply σ]

/-! ## One pull -/

/-- One turn of `fill`, by the parts of an outcome. -/
theorem fill_eq (p : Framed σ) :
    p.fill = if p.exhausted || p.cutSize ≤ p.held.length then ⟨.ok (), p, []⟩
      else match (Supply.pull p.cutSize p.feed).result with
        | .ok (some bs) =>
          (fill (p.hold (Supply.pull p.cutSize p.feed).next bs)).after
            (Supply.pull p.cutSize p.feed).notices
        | .ok none =>
          ⟨.ok (), { p with feed := (Supply.pull p.cutSize p.feed).next, exhausted := true },
            (Supply.pull p.cutSize p.feed).notices⟩
        | .error e =>
          ⟨.error e, { p with feed := (Supply.pull p.cutSize p.feed).next },
            (Supply.pull p.cutSize p.feed).notices⟩ := by
  rw [fill]
  split
  · rfl
  · split
    · rename_i hp
      rw [hp]
    · rename_i hp
      rw [hp]
    · rename_i hp
      rw [hp]

/-- A pull that delivers, where not enough is held, is held as well. -/
theorem fill_eq_pull {p : Framed σ} (hex : p.exhausted = false) (hheld : p.held.length < p.cutSize)
    {bs : Bytes} {feed : σ} {notices : List Notice}
    (hpull : Supply.pull p.cutSize p.feed = ⟨.ok (some bs), feed, notices⟩) :
    p.fill = (fill (p.hold feed bs)).after notices := by
  rw [fill_eq, if_neg (by simp [hex]; omega), hpull]

/-- A pull that fails, where not enough is held, ends the filling; WHAT IS HELD STAYS. -/
theorem fill_eq_error {p : Framed σ} (hex : p.exhausted = false) (hheld : p.held.length < p.cutSize)
    {e : Fault} {feed : σ} {notices : List Notice}
    (hpull : Supply.pull p.cutSize p.feed = ⟨.error e, feed, notices⟩) :
    p.fill = ⟨.error e, { p with feed := feed }, notices⟩ := by
  rw [fill_eq, if_neg (by simp [hex]; omega), hpull]

/-- One pull is enough where it delivers enough. -/
theorem fill_eq_hold {p : Framed σ} (hex : p.exhausted = false) (hheld : p.held.length < p.cutSize)
    {bs : Bytes} {feed : σ} {notices : List Notice}
    (hpull : Supply.pull p.cutSize p.feed = ⟨.ok (some bs), feed, notices⟩)
    (henough : p.cutSize ≤ (p.held ++ bs).length) :
    p.fill = ⟨.ok (), p.hold feed bs, notices⟩ := by
  have hfull : fill (p.hold feed bs) = ⟨.ok (), p.hold feed bs, []⟩ := by
    rw [fill, if_pos]
    show (p.exhausted || decide (p.cutSize ≤ (p.held ++ bs).length)) = true
    rw [decide_eq_true henough, Bool.or_true]
  rw [fill_eq_pull hex hheld hpull, hfull, Outcome.after, List.append_nil]

/-- While a pull that is needed fails, there is no frame. -/
theorem nextFrame_eq_error {p : Framed σ} {e : Fault} (hstate : p.signer.state ≠ .terminal)
    (hex : p.exhausted = false) (hheld : p.held.length < p.cutSize)
    (hpull : (Supply.pull p.cutSize p.feed).result = .error e) :
    p.nextFrame.result = .error e := by
  have hfill : p.fill.result = .error e := by
    rw [fill_eq, if_neg (by simp [hex]; omega), hpull]
  rw [nextFrame, if_neg hstate, Outcome.andThen, hfill]

/-! ## Loops -/

/-- One turn of `frames`, by the parts of an outcome. -/
theorem frames_eq (p : Framed σ) :
    frames p = match p.nextFrame.result with
      | .ok (some frame) =>
        ((frames p.nextFrame.next).map (frame :: ·)).after p.nextFrame.notices
      | .ok none => ⟨.ok [], p.nextFrame.next, p.nextFrame.notices⟩
      | .error e => ⟨.error e, p.nextFrame.next, p.nextFrame.notices⟩ := by
  rw [frames]
  split
  · rename_i hn
    rw [hn]
  · rename_i hn
    rw [hn]
  · rename_i hn
    rw [hn]

/-- One turn of `gather`, by the parts of an outcome. -/
theorem gather_eq (size : Nat) (p : Framed σ) :
    gather size p = if size ≤ p.pending.length then ⟨.ok (), p, []⟩
      else match p.nextFrame.result with
        | .ok (some frame) => (gather size (p.nextFrame.next.keep frame)).after p.nextFrame.notices
        | .ok none => ⟨.ok (), p.nextFrame.next, p.nextFrame.notices⟩
        | .error e => ⟨.error e, p.nextFrame.next, p.nextFrame.notices⟩ := by
  rw [gather]
  split
  · rfl
  · split
    · rename_i hn
      rw [hn]
    · rename_i hn
      rw [hn]
    · rename_i hn
      rw [hn]

theorem frames_eq_error {p : Framed σ} {e : Fault} (h : p.nextFrame.result = .error e) :
    frames p = ⟨.error e, p.nextFrame.next, p.nextFrame.notices⟩ := by
  rw [frames_eq, h]

theorem gather_eq_error {p : Framed σ} {e : Fault} {size : Nat}
    (hsize : p.pending.length < size) (h : p.nextFrame.result = .error e) :
    (gather size p).result = .error e := by
  rw [gather_eq, if_neg (by omega), h]

omit [Supply σ] in
theorem flatten_pendingItem (p : Framed σ) : p.pendingItem.flatten = p.pending := by
  unfold pendingItem
  split
  · rename_i hp
    rw [List.isEmpty_iff.mp hp]
    rfl
  · exact List.flatten_singleton

/-- Where nothing is pending, an iteration is its frames. -/
theorem items_eq_frames {p : Framed σ} (hpending : p.pending = []) : p.items = p.frames := by
  have hp : { p with pending := [] } = p := by rw [← hpending]
  have hitem : p.pendingItem = [] := by rw [pendingItem, hpending]; rfl
  rw [items, hp, hitem, Outcome.map]
  cases p.frames with
  | mk result next notices => cases result <;> rfl

/-- Where nothing is pending and no frame comes, a read delivers NOTHING. -/
theorem read_eq_error {p : Framed σ} {e : Fault} (hpending : p.pending = [])
    (h : p.nextFrame.result = .error e) (size : Option Int) (h0 : size ≠ some 0) :
    (p.read size).result = .error e := by
  have hitems : (p.items.map List.flatten).result = .error e := by
    rw [items_eq_frames hpending, Outcome.result_map, frames_eq_error h]
    rfl
  cases hw : isWhole size with
  | true =>
    rw [read_whole hw]
    exact hitems
  | false =>
    have hpos : p.pending.length < (size.getD 0).toNat := by
      cases size with
      | none => exact nomatch hw
      | some n =>
        have hn : n ≠ 0 := fun hz => h0 (congrArg some hz)
        have hle : ¬n < 0 := by simpa [isWhole] using hw
        rw [hpending, List.length_nil, Option.getD_some]
        omega
    rw [read_sized hw, readSized, Outcome.andThen, gather_eq_error hpos h]

variable [Stock σ]

/-- A failure behind ONE frame leaves that frame signed. -/
theorem frames_eq_error_of_some {p : Framed σ} {frame : Bytes} {e : Fault}
    (hx : p.nextFrame.next.Exact) (h : p.nextFrame.result = .ok (some frame))
    (hnext : p.nextFrame.next.nextFrame.result = .error e) :
    (frames p).result = .error e
      ∧ (frames p).next.signer.count = p.nextFrame.next.signer.count := by
  have hcount := (nextFrame_takes hx).2.2
  rw [hnext] at hcount
  rw [frames_eq, h]
  show (frames p.nextFrame.next).result.map _ = _ ∧ (frames p.nextFrame.next).next.signer.count = _
  rw [frames_eq_error hnext]
  exact ⟨rfl, hcount.2⟩

end SigV4.Framed
