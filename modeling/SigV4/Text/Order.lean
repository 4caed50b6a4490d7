/-
  The order of texts BY CODE POINT: as in a dictionary whose alphabet is numbered.

  `inOrder` asks whether two texts stand in order; equal texts do.  The order is total, and two
  texts that stand in order both ways are equal, so a list has ONE sorted form.
-/

namespace SigV4.Text

/-- Whether the first text does not come after the second. -/
def inOrder : List Char → List Char → Bool
  | [], _ => true
  | _ :: _, [] => false
  | c :: cs, d :: ds => if c = d then inOrder cs ds else c.toNat < d.toNat

/-- Of two texts one does not come after the other. -/
theorem inOrder_total (cs ds : List Char) : inOrder cs ds || inOrder ds cs := by
  induction cs generalizing ds with
  | nil => simp [inOrder]
  | cons c cs ih =>
    cases ds with
    | nil => simp [inOrder]
    | cons d ds =>
      by_cases h : c = d
      · subst h
        simpa [inOrder] using ih ds
      · have hd : ¬d = c := fun e => h e.symm
        have hn : c.toNat ≠ d.toNat := fun e => h (Char.toNat_inj.mp e)
        simp only [inOrder, if_neg h, if_neg hd, Bool.or_eq_true, decide_eq_true_eq]
        omega

/-- Texts that stand in order both ways are EQUAL. -/
theorem inOrder_antisymm {cs ds : List Char} (h : inOrder cs ds = true)
    (h' : inOrder ds cs = true) : cs = ds := by
  induction cs generalizing ds with
  | nil =>
    cases ds with
    | nil => rfl
    | cons d ds => simp [inOrder] at h'
  | cons c cs ih =>
    cases ds with
    | nil => simp [inOrder] at h
    | cons d ds =>
      by_cases hc : c = d
      · subst hc
        simp only [inOrder, if_true] at h h'
        rw [ih h h']
      · have hd : ¬d = c := fun e => hc e.symm
        simp only [inOrder, if_neg hc, if_neg hd, decide_eq_true_eq] at h h'
        omega

theorem inOrder_trans {as bs cs : List Char} (h : inOrder as bs = true)
    (h' : inOrder bs cs = true) : inOrder as cs = true := by
  induction as generalizing bs cs with
  | nil => rfl
  | cons a as ih =>
    cases bs with
    | nil => simp [inOrder] at h
    | cons b bs =>
      cases cs with
      | nil => simp [inOrder] at h'
      | cons c cs =>
        by_cases hab : a = b
        · subst hab
          by_cases hac : a = c
          · subst hac
            simp only [inOrder, if_true] at h h' ⊢
            exact ih h h'
          · simp only [inOrder, if_neg hac] at h' ⊢
            exact h'
        · by_cases hbc : b = c
          · subst hbc
            simp only [inOrder, if_neg hab] at h ⊢
            exact h
          · simp only [inOrder, if_neg hab, if_neg hbc, decide_eq_true_eq] at h h'
            have hac : a ≠ c := by intro e; subst e; omega
            simp only [inOrder, if_neg hac, decide_eq_true_eq]
            omega

end SigV4.Text
