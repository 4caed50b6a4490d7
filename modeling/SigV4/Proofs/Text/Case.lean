/-
  LOWER CASE is settled: a text in lower case has no other lower-case form.

  1. **The table** — no row maps an image of any row (`Row.image?_of_clears`).  That is a matter of bounds
     and, where alphabets alternate, of odd and even, so it is decided row by row and not character by
     character (`lowerRows_clear`, `lowerRows_settled`).
  2. **Characters** — a SMALL character is its own small form and no capital sigma; what a character is
     lowered to consists of small ones (`isSmall_of_mem_lowerChar`).
  3. **Texts** — so lowering a text again changes nothing (`lower_lower`).

  The crux is the sigma: its small form depends on what stands around it, but neither of the two forms is
  lowered again, so the second time nothing looks around.
-/
import SigV4.Text.Case

namespace SigV4.Text

namespace CaseTable

/-! ## The table -/

/-- The last image of a row. -/
def Row.highest (r : Row) : Nat := r.2.2.2 + (r.2.1 - r.1)

/-- No image of `r` is mapped by `q`: the images are below or above what `q` maps, or fall between. -/
def Row.clears (r q : Row) : Bool :=
  r.highest < q.1 || q.2.1 < r.2.2.2
    || (q.2.2.1 == 2 && (r.2.2.1 == 2 || r.1 == r.2.1) && (r.2.2.2 + q.1) % 2 == 1)

/-- The images of a row are characters, no dotted capital, and no capitals of ASCII. -/
def Row.settled (r : Row) : Bool :=
  (r.highest < 0xD800 || (0xE000 ≤ r.2.2.2 && r.highest < 0x110000))
    && (r.highest < 0x130 || 0x130 < r.2.2.2)
    && (128 ≤ r.2.2.2 || (90 < r.2.2.2 && r.highest < 128))

theorem lowerRows_clear : (lowerRows.all fun r => lowerRows.all r.clears) = true := by
  decide +kernel

theorem lowerRows_settled : lowerRows.all Row.settled = true := by decide +kernel

/-- What a row maps goes to a place between its first image and its last. -/
theorem Row.image?_eq_some {r : Row} {n m : Nat} (h : r.image? n = some m) :
    r.1 ≤ n ∧ n ≤ r.2.1 ∧ (n - r.1) % r.2.2.1 = 0 ∧ m = r.2.2.2 + (n - r.1) := by
  unfold image? at h
  split at h
  · rename_i hin
    exact ⟨hin.1, hin.2.1, hin.2.2, (Option.some.inj h).symm⟩
  · exact nomatch h

theorem Row.image?_of_clears {r q : Row} (h : r.clears q = true) {n m : Nat}
    (hm : r.image? n = some m) : q.image? m = none := by
  obtain ⟨hfirst, hlast, hstep, rfl⟩ := Row.image?_eq_some hm
  unfold Row.clears Row.highest at h
  simp only [Bool.or_eq_true, Bool.and_eq_true, decide_eq_true_eq, beq_iff_eq] at h
  refine if_neg fun hq => ?_
  obtain ⟨hbelow, habove, hmod⟩ := hq
  rcases h with (h | h) | ⟨⟨hq, h⟩, hodd⟩
  · omega
  · omega
  · -- the images and what is mapped differ in being odd
    rw [hq] at hmod
    rcases h with h | h
    · rw [h] at hstep
      omega
    · omega

/-- **The image of a character is not mapped again.** -/
theorem image?_image? {n m : Nat} (h : image? lowerRows n = some m) :
    image? lowerRows m = none ∧ m.isValidChar ∧ m ≠ 0x130 ∧ (128 ≤ m ∨ (90 < m ∧ m < 128)) := by
  obtain ⟨r, hr, hm⟩ := List.exists_of_findSome?_eq_some h
  refine ⟨List.findSome?_eq_none_iff.mpr fun q hq => ?_, ?_⟩
  · have hclear := List.all_eq_true.mp (List.all_eq_true.mp lowerRows_clear r hr) q hq
    exact Row.image?_of_clears hclear hm
  · obtain ⟨hfirst, hlast, -, rfl⟩ := Row.image?_eq_some hm
    have hsettled := List.all_eq_true.mp lowerRows_settled r hr
    unfold Row.settled Row.highest at hsettled
    simp only [Bool.or_eq_true, Bool.and_eq_true, decide_eq_true_eq] at hsettled
    unfold Nat.isValidChar
    omega

end CaseTable

open CaseTable

/-! ## Characters -/

/-- A character that is its own small form, whatever stands around it. -/
def IsSmall (c : Char) : Prop := c.toNat ≠ 0x3A3 ∧ lowerChar c = [c]

instance (c : Char) : Decidable (IsSmall c) := inferInstanceAs (Decidable (_ ∧ _))

theorem isSmall_toLower {c : Char} (h : c.toNat < 128) : IsSmall c.toLower := by
  have hall : ∀ n : Fin 128, IsSmall (Char.ofNat n).toLower := by decide
  have hc := hall ⟨c.toNat, h⟩
  rwa [Char.ofNat_toNat] at hc

theorem isSmall_ofNat_ascii {n : Nat} (hcapitals : 90 < n) (hascii : n < 128) :
    IsSmall (Char.ofNat n) := by
  have hall : ∀ n : Fin 128, 90 < n.val → IsSmall (Char.ofNat n.val) := by decide
  exact hall ⟨n, hascii⟩ hcapitals

/-- What the table maps a character to is small. -/
theorem isSmall_ofNat {n m : Nat} (h : image? lowerRows n = some m) : IsSmall (Char.ofNat m) := by
  obtain ⟨hnone, hvalid, hdotted, hcase⟩ := image?_image? h
  have hnat : (Char.ofNat m).toNat = m := by
    rw [Char.ofNat, dif_pos hvalid]
    rfl
  rcases hcase with hwide | ⟨hcapitals, hascii⟩
  · refine ⟨fun hsigma => ?_, ?_⟩
    · have hmapped : image? lowerRows 0x3A3 ≠ none := by decide +kernel
      rw [hnat] at hsigma
      rw [hsigma] at hnone
      exact hmapped hnone
    · rw [lowerChar, hnat, if_neg (by omega), if_neg hdotted, hnone]
      rfl
  · exact isSmall_ofNat_ascii hcapitals hascii

/-- **What a character is lowered to is small.** -/
theorem isSmall_of_mem_lowerChar {c d : Char} (hc : c.toNat ≠ 0x3A3) (h : d ∈ lowerChar c) :
    IsSmall d := by
  by_cases hascii : c.toNat < 128
  · rw [lowerChar_ascii hascii] at h
    rw [List.mem_singleton.mp h]
    exact isSmall_toLower hascii
  by_cases hdotted : c.toNat = 0x130
  · rw [lowerChar, if_neg hascii, if_pos hdotted] at h
    have hboth : IsSmall 'i' ∧ IsSmall (Char.ofNat 0x307) := by decide +kernel
    rcases List.mem_cons.mp h with rfl | h
    · exact hboth.1
    · rw [List.mem_singleton.mp h]
      exact hboth.2
  have hlower : lowerChar c = [((image? lowerRows c.toNat).map Char.ofNat).getD c] := by
    rw [lowerChar, if_neg hascii, if_neg hdotted]
  cases himage : image? lowerRows c.toNat with
  | none =>
    rw [himage] at hlower
    rw [hlower] at h
    rw [List.mem_singleton.mp h]
    exact ⟨hc, hlower⟩
  | some m =>
    rw [hlower, himage] at h
    rw [List.mem_singleton.mp h]
    exact isSmall_ofNat himage

/-! ## Texts -/

theorem isSmall_of_mem_lowerAfter {before cs : List Char} {d : Char} (h : d ∈ lowerAfter before cs) :
    IsSmall d := by
  induction cs generalizing before with
  | nil => exact nomatch h
  | cons c cs ih =>
    rw [lowerAfter] at h
    rcases List.mem_append.mp h with h | h
    · split at h
      · rw [List.mem_singleton.mp h]
        have hforms : IsSmall (Char.ofNat 0x3C2) ∧ IsSmall (Char.ofNat 0x3C3) := by decide +kernel
        split
        · exact hforms.1
        · exact hforms.2
      · rename_i hc
        exact isSmall_of_mem_lowerChar hc h
    · exact ih h

/-- Small characters are left as they are. -/
theorem lowerAfter_of_small {cs : List Char} (h : ∀ c ∈ cs, IsSmall c) (before : List Char) :
    lowerAfter before cs = cs := by
  induction cs generalizing before with
  | nil => rfl
  | cons c cs ih =>
    obtain ⟨hsigma, hc⟩ := h c List.mem_cons_self
    rw [lowerAfter, if_neg hsigma, hc, ih fun d hd => h d (List.mem_cons_of_mem c hd)]
    rfl

/-- **LOWERING A TEXT AGAIN CHANGES NOTHING.** -/
theorem lower_lower (s : String) : lower (lower s) = lower s := by
  unfold lower
  rw [String.toList_ofList, lowerAfter_of_small fun c => isSmall_of_mem_lowerAfter]

end SigV4.Text
