/-
  The LETTER CASE OF ASCII does not reach the lower-case form.

  1. **Characters** — a character has the classes and the small form of its own ASCII small form
     (`lowerChar_toLower` and its like).  Beyond ASCII there is nothing to show: such a character is its
     own ASCII small form.
  2. **Texts** — so two texts that differ only in the case of ASCII letters have one lower-case form
     (`lower_eq_of_toLower`).

  The crux is the sigma again: a letter that stands before it or behind it is seen from there, but only as a
  letter with case, and that it is in either case.
-/
import SigV4.Text.Case

namespace SigV4.Text

/-! ## Characters -/

/-- Beyond ASCII a character is its own ASCII small form. -/
theorem toLower_of_not_ascii {c : Char} (h : ¬c.toNat < 128) : c.toLower = c := by
  unfold Char.toLower
  rw [dif_neg]
  rintro ⟨-, hlast⟩
  have hcode : c.toNat ≤ 90 := hlast
  omega

/-- What holds of all of ASCII, and of characters that are their own ASCII small form, HOLDS ALWAYS. -/
theorem forall_toLower {P : Char → Char → Prop}
    (hascii : ∀ n : Fin 128, P (Char.ofNat n) (Char.ofNat n).toLower) (hself : ∀ c, P c c) (c : Char) :
    P c c.toLower := by
  by_cases h : c.toNat < 128
  · have hc := hascii ⟨c.toNat, h⟩
    rwa [Char.ofNat_toNat] at hc
  · rw [toLower_of_not_ascii h]
    exact hself c

theorem isIgnorable_toLower (c : Char) : isIgnorable c.toLower = isIgnorable c :=
  forall_toLower (P := fun c d => isIgnorable d = isIgnorable c) (by decide) (fun _ => rfl) c

theorem isCased_toLower (c : Char) : isCased c.toLower = isCased c :=
  forall_toLower (P := fun c d => isCased d = isCased c) (by decide) (fun _ => rfl) c

theorem lowerChar_toLower (c : Char) : lowerChar c.toLower = lowerChar c :=
  forall_toLower (P := fun c d => lowerChar d = lowerChar c) (by decide) (fun _ => rfl) c

theorem sigma_toLower (c : Char) : c.toLower.toNat = 0x3A3 ↔ c.toNat = 0x3A3 :=
  forall_toLower (P := fun c d => d.toNat = 0x3A3 ↔ c.toNat = 0x3A3) (by decide) (fun _ => .rfl) c

/-! ## Texts -/

theorem meetsCased_toLower (cs : List Char) : meetsCased (cs.map Char.toLower) = meetsCased cs := by
  induction cs with
  | nil => rfl
  | cons c cs ih =>
    unfold meetsCased at ih ⊢
    rw [List.map_cons]
    cases h : isIgnorable c with
    | true =>
      rw [List.dropWhile_cons_of_pos (isIgnorable_toLower c ▸ h), List.dropWhile_cons_of_pos h]
      exact ih
    | false =>
      rw [List.dropWhile_cons_of_neg (by rw [isIgnorable_toLower, h]; decide),
        List.dropWhile_cons_of_neg (by rw [h]; decide)]
      exact isCased_toLower c

/-- A text is lowered as its ASCII small form is, in front of which stands that of what was before it. -/
theorem lowerAfter_toLower (before cs : List Char) :
    lowerAfter (before.map Char.toLower) (cs.map Char.toLower) = lowerAfter before cs := by
  induction cs generalizing before with
  | nil => rfl
  | cons c cs ih =>
    have hfinal : isFinalSigma (before.map Char.toLower) (cs.map Char.toLower)
        = isFinalSigma before cs := by
      unfold isFinalSigma
      rw [meetsCased_toLower, meetsCased_toLower]
    have hrest : lowerAfter (c.toLower :: before.map Char.toLower) (cs.map Char.toLower)
        = lowerAfter (c :: before) cs := ih (c :: before)
    simp only [List.map_cons, lowerAfter, hfinal, hrest, lowerChar_toLower, sigma_toLower]

/-- **TEXTS THAT DIFFER IN THE CASE OF ASCII LETTERS ONLY** have one lower-case form. -/
theorem lower_eq_of_toLower {s t : String}
    (h : s.toList.map Char.toLower = t.toList.map Char.toLower) : lower s = lower t := by
  unfold lower
  rw [← lowerAfter_toLower [] s.toList, ← lowerAfter_toLower [] t.toList, h]

end SigV4.Text
