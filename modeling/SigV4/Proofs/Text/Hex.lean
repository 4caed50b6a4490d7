/-
  HEXADECIMAL DIGITS, read back.

  1. **Digits** — a digit of either letter case has the value that it was written for, and a digit that
     can be read is, in upper case, the one that is written for its value.
  2. **Numbers** — `toNat?` reads digits, the most significant first.  What `ofNat` writes is read as the
     number it was written for (`toNat?_ofNat`).
  3. **Characters** — whatever is written consists of the sixteen lower-case digits only.
-/
import SigV4.Bytes

namespace SigV4.Hex

/-! ## Digits -/

theorem value?_digit {n : Nat} (h : n < 16) : value? (digit n) = some n :=
  (by decide : ∀ n : Fin 16, value? (digit n) = some n.val) ⟨n, h⟩

theorem value?_upperDigit {n : Nat} (h : n < 16) : value? (upperDigit n) = some n :=
  (by decide : ∀ n : Fin 16, value? (upperDigit n) = some n.val) ⟨n, h⟩

/-- A digit that can be read is, in upper case, THE DIGIT OF ITS VALUE. -/
theorem toUpper_of_value? {c : Char} {n : Nat} (h : value? c = some n) :
    n < 16 ∧ c.toUpper = upperDigit n := by
  have hsmall : c.toNat < 128 := by
    simp only [value?] at h
    split at h
    · omega
    · split at h
      · omega
      · split at h
        · omega
        · cases h
  have hall : ∀ k : Fin 128, ∀ v ∈ value? (Char.ofNat k),
      v < 16 ∧ (Char.ofNat k).toUpper = upperDigit v := by decide
  have hdigit := hall ⟨c.toNat, hsmall⟩
  rw [Char.ofNat_toNat] at hdigit
  exact hdigit n h

/-! ## Numbers -/

/-- Reads digits onto the number `n` that those before them have made. -/
def readFrom? (n : Nat) : List Char → Option Nat
  | [] => some n
  | c :: rest => (value? c).bind fun d => readFrom? (16 * n + d) rest

/-- **The number that digits write,** if there are any and nothing else. -/
def toNat? (cs : List Char) : Option Nat := if cs.isEmpty then none else readFrom? 0 cs

theorem readFrom?_append (n : Nat) (cs ds : List Char) :
    readFrom? n (cs ++ ds) = (readFrom? n cs).bind fun m => readFrom? m ds := by
  induction cs generalizing n with
  | nil => rfl
  | cons c cs ih =>
    rw [List.cons_append, readFrom?, readFrom?]
    cases value? c with
    | none => rfl
    | some d => exact ih _

theorem readFrom?_ofNat (n : Nat) : readFrom? 0 (ofNat n) = some n := by
  induction n using Nat.strongRecOn with
  | ind n ih =>
    have hlast {m d : Nat} (hd : d < 16) : readFrom? m [digit d] = some (16 * m + d) := by
      rw [readFrom?, value?_digit hd]
      rfl
    rw [ofNat]
    by_cases hn : n < 16
    · rw [if_pos hn, hlast hn]
      simp
    · rw [if_neg hn, readFrom?_append, ih (n / 16) (by omega), Option.bind_some,
        hlast (by omega : n % 16 < 16), Nat.div_add_mod]

/-- A NUMBER THAT WAS WRITTEN is read again. -/
theorem toNat?_ofNat (n : Nat) : toNat? (ofNat n) = some n := by
  have hne : (ofNat n).isEmpty = false := by
    have := length_ofNat_pos n
    cases ho : ofNat n with
    | nil => simp [ho] at this
    | cons c cs => rfl
  rw [toNat?, hne]
  exact readFrom?_ofNat n

/-! ## Characters -/

/-- The sixteen lower-case digits. -/
def IsDigit (c : Char) : Prop := ∃ n, n < 16 ∧ c = digit n

theorem isDigit_of_mem_ofNat {n : Nat} {c : Char} (h : c ∈ ofNat n) : IsDigit c := by
  induction n using Nat.strongRecOn with
  | ind n ih =>
    rw [ofNat] at h
    split at h
    · rename_i hn
      exact ⟨n, hn, List.mem_singleton.mp h⟩
    · rcases List.mem_append.mp h with h | h
      · exact ih (n / 16) (by omega) h
      · exact ⟨n % 16, by omega, List.mem_singleton.mp h⟩

theorem isDigit_of_mem_ofBytes {bs : List UInt8} {c : Char} (h : c ∈ ofBytes bs) : IsDigit c := by
  obtain ⟨b, -, hc⟩ := List.mem_flatMap.mp h
  have hb := b.toNat_lt
  simp only [List.mem_cons, List.not_mem_nil, or_false] at hc
  rcases hc with rfl | rfl
  · exact ⟨_, by omega, rfl⟩
  · exact ⟨_, by omega, rfl⟩

/-- A digit is an ASCII character, and no semicolon. -/
theorem IsDigit.ascii {c : Char} (h : IsDigit c) : c.toNat < 128 ∧ c ≠ ';' := by
  obtain ⟨n, hn, rfl⟩ := h
  exact (by decide : ∀ n : Fin 16, (digit n).toNat < 128 ∧ digit n ≠ ';') ⟨n, hn⟩

end SigV4.Hex
