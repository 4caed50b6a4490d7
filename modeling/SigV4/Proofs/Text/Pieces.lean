/-
  THE PIECES of a text between separators, and rows of pieces.

  1. **Cutting** — how the pieces of a text follow its first character, and where a text without
     separators goes that is put before it or behind it: to the first piece, or to the last.
  2. **Joining** — the pieces of a row are those it was made of, so two rows of pieces without separators
     are the same text only if they are THE SAME PIECES (`join_inj`).
-/
import SigV4.Text.Split

namespace SigV4.Text

/-! ## Cutting -/

theorem split_sep (sep : Char) (cs : List Char) : split sep (sep :: cs) = [] :: split sep cs :=
  if_pos rfl

/-- A character that is no separator is put before the first piece. -/
theorem split_cons_of_ne {sep c : Char} (h : c ≠ sep) (cs : List Char) :
    ∃ piece pieces, split sep cs = piece :: pieces ∧ split sep (c :: cs) = (c :: piece) :: pieces := by
  obtain ⟨piece, pieces, hsplit⟩ := List.exists_cons_of_ne_nil (split_ne_nil sep cs)
  refine ⟨piece, pieces, hsplit, ?_⟩
  rw [split, if_neg h, hsplit]

/-- No piece holds a separator. -/
theorem not_mem_of_mem_split {sep : Char} {cs piece : List Char} (h : piece ∈ split sep cs) :
    sep ∉ piece := by
  induction cs generalizing piece with
  | nil =>
    rw [show piece = [] from List.mem_singleton.mp h]
    exact List.not_mem_nil
  | cons c cs ih =>
    by_cases hc : c = sep
    · subst hc
      rw [split_sep] at h
      rcases List.mem_cons.mp h with rfl | h
      · exact List.not_mem_nil
      · exact ih h
    · obtain ⟨first, pieces, hcs, hsplit⟩ := split_cons_of_ne hc cs
      rw [hsplit] at h
      rw [hcs] at ih
      rcases List.mem_cons.mp h with rfl | h
      · intro hmem
        rcases List.mem_cons.mp hmem with hmem | hmem
        · exact hc hmem.symm
        · exact ih List.mem_cons_self hmem
      · exact ih (List.mem_cons_of_mem first h)

/-- What stands before a text, without separators, belongs to its first piece. -/
theorem split_append_left {sep : Char} {before : List Char} (h : sep ∉ before) (cs : List Char) :
    ∃ piece pieces, split sep cs = piece :: pieces
      ∧ split sep (before ++ cs) = (before ++ piece) :: pieces := by
  induction before with
  | nil =>
    obtain ⟨piece, pieces, hsplit⟩ := List.exists_cons_of_ne_nil (split_ne_nil sep cs)
    exact ⟨piece, pieces, hsplit, hsplit⟩
  | cons c before ih =>
    rw [List.mem_cons, not_or] at h
    obtain ⟨piece, pieces, hsplit, hbefore⟩ := ih h.2
    refine ⟨piece, pieces, hsplit, ?_⟩
    rw [List.cons_append, split, if_neg (Ne.symm h.1), hbefore]
    rfl

/-- What stands behind a text, without separators, belongs to its last piece. -/
theorem split_append_right {sep : Char} {behind : List Char} (h : sep ∉ behind) (cs : List Char) :
    ∃ pieces piece, split sep cs = pieces ++ [piece]
      ∧ split sep (cs ++ behind) = pieces ++ [piece ++ behind] := by
  induction cs with
  | nil => exact ⟨[], [], rfl, split_of_not_mem h⟩
  | cons c cs ih =>
    obtain ⟨pieces, piece, hsplit, hbehind⟩ := ih
    by_cases hc : c = sep
    · refine ⟨[] :: pieces, piece, ?_, ?_⟩
      · rw [split, if_pos hc, hsplit]
        rfl
      · rw [List.cons_append, split, if_pos hc, hbehind]
        rfl
    · cases pieces with
      | nil =>
        refine ⟨[], c :: piece, ?_, ?_⟩
        · rw [split, if_neg hc, hsplit]
          rfl
        · rw [List.cons_append, split, if_neg hc, hbehind]
          rfl
      | cons first pieces =>
        refine ⟨(c :: first) :: pieces, piece, ?_, ?_⟩
        · rw [split, if_neg hc, hsplit]
          rfl
        · rw [List.cons_append, split, if_neg hc, hbehind]
          rfl

/-! ## Joining -/

/-- A separator stands behind a piece that is not the last. -/
theorem join_cons (sep : Char) (piece : List Char) {pieces : List (List Char)} (h : pieces ≠ []) :
    join sep (piece :: pieces) = piece ++ sep :: join sep pieces := by
  obtain ⟨next, rest, rfl⟩ := List.exists_cons_of_ne_nil h
  rfl

/-- Only the separators in a row come from no piece. -/
theorem mem_join {sep c : Char} {pieces : List (List Char)} (h : c ∈ join sep pieces) :
    c = sep ∨ ∃ piece ∈ pieces, c ∈ piece := by
  induction pieces with
  | nil => exact nomatch h
  | cons piece pieces ih =>
    by_cases hne : pieces = []
    · subst hne
      exact .inr ⟨piece, List.mem_cons_self, h⟩
    · rw [join_cons sep piece hne] at h
      rcases List.mem_append.mp h with h | h
      · exact .inr ⟨piece, List.mem_cons_self, h⟩
      · rcases List.mem_cons.mp h with h | h
        · exact .inl h
        · refine (ih h).imp_right ?_
          rintro ⟨other, hother, hmem⟩
          exact ⟨other, List.mem_cons_of_mem piece hother, hmem⟩

/-- What is in a piece is in the row. -/
theorem mem_join_of_mem {sep c : Char} {pieces : List (List Char)} {piece : List Char}
    (hpiece : piece ∈ pieces) (hc : c ∈ piece) : c ∈ join sep pieces := by
  induction pieces with
  | nil => exact nomatch hpiece
  | cons first pieces ih =>
    by_cases hne : pieces = []
    · subst hne
      rw [List.mem_singleton.mp hpiece] at hc
      exact hc
    · rw [join_cons sep first hne]
      rcases List.mem_cons.mp hpiece with rfl | hpiece
      · exact List.mem_append_left _ hc
      · exact List.mem_append_right _ (List.mem_cons_of_mem sep (ih hpiece))

/-- A character other than the separator is counted piece by piece. -/
theorem count_join_cons {sep c : Char} (h : sep ≠ c) (piece : List Char)
    (pieces : List (List Char)) :
    (join sep (piece :: pieces)).count c = piece.count c + (join sep pieces).count c := by
  by_cases hne : pieces = []
  · subst hne
    rfl
  · rw [join_cons sep piece hne, List.count_append, List.count_cons_of_ne h]

/-- The pieces of a row are those it was made of; the empty row has an empty piece. -/
theorem mem_split_join {sep : Char} {pieces : List (List Char)} {piece : List Char}
    (h : ∀ p ∈ pieces, sep ∉ p) (hp : piece ∈ split sep (join sep pieces)) :
    piece = [] ∨ piece ∈ pieces := by
  by_cases hne : pieces = []
  · subst hne
    exact .inl (List.mem_singleton.mp hp)
  · rw [split_join hne h] at hp
    exact .inr hp

/-- Rows of pieces without separators are one text ONLY IF THEIR PIECES ARE THE SAME. -/
theorem join_inj {sep : Char} {ps qs : List (List Char)} (hps : ps ≠ []) (hqs : qs ≠ [])
    (hp : ∀ p ∈ ps, sep ∉ p) (hq : ∀ q ∈ qs, sep ∉ q) : join sep ps = join sep qs ↔ ps = qs := by
  constructor
  · intro h
    rw [← split_join hps hp, h, split_join hqs hq]
  · rintro rfl
    rfl

end SigV4.Text
