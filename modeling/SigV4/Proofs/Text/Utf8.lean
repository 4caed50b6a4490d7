/-
  UTF-8, WRITTEN AND READ BACK.

  1. **Bytes in ranges** — the comparisons that `first` makes, as comparisons of numbers.
  2. **Forms** — what `first` reads from one, two, three and four bytes that lie in the ranges of their
     form.
  3. **Characters** — the bytes of a character lie in the ranges of its form, and their low bits make up
     its code point; so `first` reads the character (`first_encodeChar`), and `decode` the text
     (`decode_encode`).  No byte of another character is taken for an ASCII character (`mem_encodeChar`).

  The crux is the second byte: its range depends on the first one, and it is there that overlong forms and
  surrogates are kept out, of which a character has NONE.
-/
import SigV4.Text.Utf8

namespace SigV4.Utf8

/-! ## Bytes in ranges -/

/-- A small number as a byte, of which only its value is known. -/
theorem exists_byte {n : Nat} (h : n < 256) : ∃ b, UInt8.ofNat n = b ∧ b.toNat = n :=
  ⟨_, rfl, UInt8.toNat_ofNat_of_lt' h⟩

/-- The bits that a continuing byte was written for. -/
theorem low_eq {b : UInt8} {n : Nat} (h : b.toNat = n + 0x80) : low b = n := by
  show b.toNat - 0x80 = n
  rw [h, Nat.add_sub_cancel]

theorem isTrail_iff (b : UInt8) : isTrail b = true ↔ 0x80 ≤ b.toNat ∧ b.toNat ≤ 0xBF := by
  simp [isTrail, UInt8.le_iff_toNat_le]

theorem isSecondOfThree_iff (a b : UInt8) :
    isSecondOfThree a b = true ↔
      (if a.toNat = 0xE0 then 0xA0 else 0x80) ≤ b.toNat
        ∧ b.toNat ≤ (if a.toNat = 0xED then 0x9F else 0xBF) := by
  have hne {k : UInt8} (h : a ≠ k) : a.toNat ≠ k.toNat := fun e => h (UInt8.toNat_inj.mp e)
  by_cases h0 : a = 0xE0
  · simp [isSecondOfThree, h0, UInt8.le_iff_toNat_le]
  · have h0' : a.toNat ≠ 0xE0 := hne h0
    rw [isSecondOfThree, if_neg h0, if_neg h0']
    by_cases h1 : a = 0xED
    · simp [h1, UInt8.le_iff_toNat_le]
    · have h1' : a.toNat ≠ 0xED := hne h1
      rw [if_neg h1, if_neg h1', isTrail_iff]

theorem isSecondOfFour_iff (a b : UInt8) :
    isSecondOfFour a b = true ↔
      (if a.toNat = 0xF0 then 0x90 else 0x80) ≤ b.toNat
        ∧ b.toNat ≤ (if a.toNat = 0xF4 then 0x8F else 0xBF) := by
  have hne {k : UInt8} (h : a ≠ k) : a.toNat ≠ k.toNat := fun e => h (UInt8.toNat_inj.mp e)
  by_cases h0 : a = 0xF0
  · simp [isSecondOfFour, h0, UInt8.le_iff_toNat_le]
  · have h0' : a.toNat ≠ 0xF0 := hne h0
    rw [isSecondOfFour, if_neg h0, if_neg h0']
    by_cases h1 : a = 0xF4
    · simp [h1, UInt8.le_iff_toNat_le]
    · have h1' : a.toNat ≠ 0xF4 := hne h1
      rw [if_neg h1, if_neg h1', isTrail_iff]

/-! ## Forms -/

theorem first_one {a : UInt8} (h : a.toNat < 0x80) (rest : Bytes) :
    first a rest = (Char.ofNat a.toNat, 0) :=
  if_pos (UInt8.lt_iff_toNat_lt.mpr h)

theorem first_two {a b : UInt8} (h : 0xC2 ≤ a.toNat ∧ a.toNat ≤ 0xDF) (hb : isTrail b = true)
    (rest : Bytes) :
    first a (b :: rest) = (Char.ofNat ((a.toNat - 0xC0) * 64 + low b), 1) := by
  have h1 : ¬a < 0x80 := by
    rw [UInt8.lt_iff_toNat_lt]
    exact Nat.not_lt.mpr (Nat.le_trans (by decide) h.1)
  have h2 : 0xC2 ≤ a ∧ a ≤ 0xDF := ⟨UInt8.le_iff_toNat_le.mpr h.1, UInt8.le_iff_toNat_le.mpr h.2⟩
  rw [first, if_neg h1, if_pos h2]
  exact if_pos hb

theorem first_three {a b c : UInt8} (h : 0xE0 ≤ a.toNat ∧ a.toNat ≤ 0xEF)
    (hb : isSecondOfThree a b = true) (hc : isTrail c = true) (rest : Bytes) :
    first a (b :: c :: rest)
      = (Char.ofNat ((a.toNat - 0xE0) * 4096 + low b * 64 + low c), 2) := by
  have h1 : ¬a < 0x80 := by
    rw [UInt8.lt_iff_toNat_lt]
    exact Nat.not_lt.mpr (Nat.le_trans (by decide) h.1)
  have h2 : ¬(0xC2 ≤ a ∧ a ≤ 0xDF) := by
    rintro ⟨-, hle⟩
    exact absurd (Nat.le_trans h.1 (UInt8.le_iff_toNat_le.mp hle)) (by decide)
  have h3 : 0xE0 ≤ a ∧ a ≤ 0xEF := ⟨UInt8.le_iff_toNat_le.mpr h.1, UInt8.le_iff_toNat_le.mpr h.2⟩
  rw [first, if_neg h1, if_neg h2, if_pos h3]
  exact (if_pos hb).trans (if_pos hc)

theorem first_four {a b c d : UInt8} (h : 0xF0 ≤ a.toNat ∧ a.toNat ≤ 0xF4)
    (hb : isSecondOfFour a b = true) (hc : isTrail c = true) (hd : isTrail d = true)
    (rest : Bytes) :
    first a (b :: c :: d :: rest)
      = (Char.ofNat ((a.toNat - 0xF0) * 262144 + low b * 4096 + low c * 64 + low d), 3) := by
  have h1 : ¬a < 0x80 := by
    rw [UInt8.lt_iff_toNat_lt]
    exact Nat.not_lt.mpr (Nat.le_trans (by decide) h.1)
  have h2 : ¬(0xC2 ≤ a ∧ a ≤ 0xDF) := by
    rintro ⟨-, hle⟩
    exact absurd (Nat.le_trans h.1 (UInt8.le_iff_toNat_le.mp hle)) (by decide)
  have h3 : ¬(0xE0 ≤ a ∧ a ≤ 0xEF) := by
    rintro ⟨-, hle⟩
    exact absurd (Nat.le_trans h.1 (UInt8.le_iff_toNat_le.mp hle)) (by decide)
  have h4 : 0xF0 ≤ a ∧ a ≤ 0xF4 := ⟨UInt8.le_iff_toNat_le.mpr h.1, UInt8.le_iff_toNat_le.mpr h.2⟩
  rw [first, if_neg h1, if_neg h2, if_neg h3, if_pos h4]
  exact (if_pos hb).trans ((if_pos hc).trans (if_pos hd))

/-! ## Characters -/

/-- A code point is no surrogate, and not too great. -/
theorem toNat_valid (c : Char) : c.toNat < 0xD800 ∨ (0xDFFF < c.toNat ∧ c.toNat < 0x110000) :=
  c.valid

/-- **The bytes of a character are read as that character,** whatever stands behind them. -/
theorem first_encodeChar (c : Char) (rest : Bytes) :
    ∃ a tail, String.utf8EncodeChar c = a :: tail ∧ first a (tail ++ rest) = (c, tail.length) := by
  have hvalid := toNat_valid c
  have hv : c.val.toNat = c.toNat := rfl
  rw [String.utf8EncodeChar]
  simp only [hv]
  by_cases h1 : c.toNat ≤ 127
  · obtain ⟨a, ea, ha⟩ := exists_byte (by omega : c.toNat < 256)
    rw [if_pos h1, ea]
    refine ⟨a, [], rfl, ?_⟩
    rw [first_one (by omega), ha, Char.ofNat_toNat]
    rfl
  by_cases h2 : c.toNat ≤ 2047
  · obtain ⟨a, ea, ha⟩ := exists_byte (by omega : c.toNat / 64 % 32 + 192 < 256)
    obtain ⟨b, eb, hb⟩ := exists_byte (by omega : c.toNat % 64 + 128 < 256)
    have hcode : (a.toNat - 0xC0) * 64 + low b = c.toNat := by
      rw [low_eq hb, ha]
      omega
    rw [if_neg h1, if_pos h2, ea, eb]
    refine ⟨a, [b], rfl, ?_⟩
    rw [List.singleton_append, first_two (by omega) ((isTrail_iff b).mpr (by omega)), hcode,
      Char.ofNat_toNat]
    rfl
  by_cases h3 : c.toNat ≤ 65535
  · obtain ⟨a, ea, ha⟩ := exists_byte (by omega : c.toNat / 4096 % 16 + 224 < 256)
    obtain ⟨b, eb, hb⟩ := exists_byte (by omega : c.toNat / 64 % 64 + 128 < 256)
    obtain ⟨d, ed, hd⟩ := exists_byte (by omega : c.toNat % 64 + 128 < 256)
    have hsecond : isSecondOfThree a b = true := by
      rw [isSecondOfThree_iff]
      constructor
      · split <;> omega
      · split <;> omega
    have hcode : (a.toNat - 0xE0) * 4096 + low b * 64 + low d = c.toNat := by
      rw [low_eq hb, low_eq hd, ha]
      omega
    rw [if_neg h1, if_neg h2, if_pos h3, ea, eb, ed]
    refine ⟨a, [b, d], rfl, ?_⟩
    rw [List.cons_append, List.singleton_append,
      first_three (by omega) hsecond ((isTrail_iff d).mpr (by omega)), hcode, Char.ofNat_toNat]
    rfl
  · obtain ⟨a, ea, ha⟩ := exists_byte (by omega : c.toNat / 262144 % 8 + 240 < 256)
    obtain ⟨b, eb, hb⟩ := exists_byte (by omega : c.toNat / 4096 % 64 + 128 < 256)
    obtain ⟨d, ed, hd⟩ := exists_byte (by omega : c.toNat / 64 % 64 + 128 < 256)
    obtain ⟨e, ee, he⟩ := exists_byte (by omega : c.toNat % 64 + 128 < 256)
    have hsecond : isSecondOfFour a b = true := by
      rw [isSecondOfFour_iff]
      constructor
      · split <;> omega
      · split <;> omega
    have hcode : (a.toNat - 0xF0) * 262144 + low b * 4096 + low d * 64 + low e = c.toNat := by
      rw [low_eq hb, low_eq hd, low_eq he, ha]
      omega
    rw [if_neg h1, if_neg h2, if_neg h3, ea, eb, ed, ee]
    refine ⟨a, [b, d, e], rfl, ?_⟩
    rw [List.cons_append, List.cons_append, List.singleton_append,
      first_four (by omega) hsecond ((isTrail_iff d).mpr (by omega)) ((isTrail_iff e).mpr (by omega)),
      hcode, Char.ofNat_toNat]
    rfl

/-- A byte of a character is the character ITSELF, or lies above the ASCII characters. -/
theorem mem_encodeChar {c : Char} {b : UInt8} (h : b ∈ String.utf8EncodeChar c) :
    b.toNat = c.toNat ∨ 0x80 ≤ b.toNat := by
  have hv : c.val.toNat = c.toNat := rfl
  rw [String.utf8EncodeChar] at h
  simp only [hv] at h
  by_cases h1 : c.toNat ≤ 127
  · rw [if_pos h1, List.mem_singleton] at h
    rw [h]
    exact .inl (UInt8.toNat_ofNat_of_lt' (show c.toNat < 256 by omega))
  · have hbyte {n : Nat} (hn : 0x80 ≤ n) (hlt : n < 256) : 0x80 ≤ (UInt8.ofNat n).toNat := by
      rw [UInt8.toNat_ofNat_of_lt' hlt]
      exact hn
    right
    rw [if_neg h1] at h
    -- two, three or four bytes, each of them with its high bit
    split at h
    · simp only [List.mem_cons, List.not_mem_nil, or_false] at h
      rcases h with rfl | rfl
      · exact hbyte (by omega) (by omega)
      · exact hbyte (by omega) (by omega)
    · split at h
      · simp only [List.mem_cons, List.not_mem_nil, or_false] at h
        rcases h with rfl | rfl | rfl
        · exact hbyte (by omega) (by omega)
        · exact hbyte (by omega) (by omega)
        · exact hbyte (by omega) (by omega)
      · simp only [List.mem_cons, List.not_mem_nil, or_false] at h
        rcases h with rfl | rfl | rfl | rfl
        · exact hbyte (by omega) (by omega)
        · exact hbyte (by omega) (by omega)
        · exact hbyte (by omega) (by omega)
        · exact hbyte (by omega) (by omega)

/-- **A TEXT THAT WAS WRITTEN is read again.** -/
theorem decode_encode (cs : List Char) : decode (encode cs) = cs := by
  induction cs with
  | nil => rw [encode_nil, decode_nil]
  | cons c cs ih =>
    obtain ⟨a, tail, hchar, hfirst⟩ := first_encodeChar c (encode cs)
    rw [encode_cons, hchar, List.cons_append, decode_cons, hfirst]
    show c :: decode ((tail ++ encode cs).drop tail.length) = _
    rw [List.drop_left, ih]

/-- Texts that are written the same ARE the same. -/
theorem encode_injective {a b : List Char} (h : encode a = encode b) : a = b := by
  rw [← decode_encode a, h, decode_encode]

end SigV4.Utf8
