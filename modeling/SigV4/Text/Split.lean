/-
  Cutting a text AT A SEPARATOR, and joining the pieces again.

  `split` never drops anything: a text with `n` separators has `n + 1` pieces, empty ones among
  them, and the empty text is one empty piece.  `join_split` says that nothing is lost, and
  `split_join` that pieces without separators are found again.
-/

namespace SigV4.Text

/-- The pieces of a text between the separators. -/
def split (sep : Char) : List Char → List (List Char)
  | [] => [[]]
  | c :: rest =>
    if c = sep then [] :: split sep rest
    else match split sep rest with
      | piece :: pieces => (c :: piece) :: pieces
      | [] => [[c]]

/-- The pieces with a separator between any two. -/
def join (sep : Char) : List (List Char) → List Char
  | [] => []
  | [piece] => piece
  | piece :: next :: pieces => piece ++ sep :: join sep (next :: pieces)

theorem split_ne_nil (sep : Char) (cs : List Char) : split sep cs ≠ [] := by
  cases cs with
  | nil => simp [split]
  | cons c rest =>
    rw [split]
    split
    · simp
    · split <;> simp

/-- NOTHING IS LOST: joining the pieces gives back the text. -/
theorem join_split (sep : Char) (cs : List Char) : join sep (split sep cs) = cs := by
  induction cs with
  | nil => rfl
  | cons c rest ih =>
    rw [split]
    match h : split sep rest with
    | [] => exact absurd h (split_ne_nil sep rest)
    | [piece] =>
      rw [h] at ih
      by_cases hc : c = sep <;> simp_all [join]
    | piece :: next :: pieces =>
      rw [h] at ih
      by_cases hc : c = sep <;> simp_all [join]

/-- Cutting goes on BEHIND a separator as if nothing stood before it. -/
theorem split_append (sep : Char) (before after : List Char) :
    split sep (before ++ sep :: after) = split sep before ++ split sep after := by
  induction before with
  | nil => exact if_pos rfl
  | cons c rest ih =>
    rw [List.cons_append, split, ih, split]
    by_cases hc : c = sep
    · rw [if_pos hc, if_pos hc]
      rfl
    · rw [if_neg hc, if_neg hc]
      match h : split sep rest with
      | [] => exact absurd h (split_ne_nil sep rest)
      | piece :: pieces => rfl

/-- A text without separators is ONE PIECE. -/
theorem split_of_not_mem {sep : Char} {piece : List Char} (h : sep ∉ piece) :
    split sep piece = [piece] := by
  induction piece with
  | nil => rfl
  | cons c rest ih =>
    rw [List.mem_cons, not_or] at h
    rw [split, if_neg (Ne.symm h.1), ih h.2]

/-- Pieces without separators are found again, where there is one at least. -/
theorem split_join {sep : Char} {pieces : List (List Char)} (hne : pieces ≠ [])
    (h : ∀ piece ∈ pieces, sep ∉ piece) : split sep (join sep pieces) = pieces := by
  induction pieces with
  | nil => exact absurd rfl hne
  | cons piece rest ih =>
    have hpiece : split sep piece = [piece] := split_of_not_mem (h piece List.mem_cons_self)
    cases rest with
    | nil => exact hpiece
    | cons next rest =>
      have hrest := ih (List.cons_ne_nil next rest) fun p hp => h p (List.mem_cons_of_mem _ hp)
      rw [join, split_append, hpiece, hrest]
      rfl

/-- A text whose pieces are written anew, without separators, HAS THE WRITTEN PIECES. -/
theorem split_join_map {sep : Char} {write : List Char → List Char}
    (h : ∀ piece, sep ∉ write piece) (cs : List Char) :
    split sep (join sep ((split sep cs).map write)) = (split sep cs).map write := by
  refine split_join (by simpa using split_ne_nil sep cs) ?_
  intro written hwritten
  obtain ⟨piece, -, rfl⟩ := List.mem_map.mp hwritten
  exact h piece

/-- What stands before the first separator, and what stands after it if there is one. -/
def cut (sep : Char) : List Char → List Char × Option (List Char)
  | [] => ([], none)
  | c :: rest =>
    if c = sep then ([], some rest)
    else let (before, after) := cut sep rest; (c :: before, after)

theorem length_of_cut {sep : Char} {cs before after : List Char}
    (h : cut sep cs = (before, some after)) : after.length < cs.length := by
  induction cs generalizing before with
  | nil => simp [cut] at h
  | cons c rest ih =>
    rw [cut] at h
    split at h
    · simp only [Prod.mk.injEq, Option.some.injEq] at h
      rw [← h.2]
      simp
    · simp only [Prod.mk.injEq] at h
      have := @ih (cut sep rest).1 (by rw [← h.2])
      simp only [List.length_cons]
      omega

/-- A cut is made at a separator that has none before it. -/
theorem cut_of_not_mem {sep : Char} {before : List Char} (h : sep ∉ before) (after : List Char) :
    cut sep (before ++ sep :: after) = (before, some after) := by
  induction before with
  | nil => exact if_pos rfl
  | cons c rest ih =>
    rw [List.mem_cons, not_or] at h
    rw [List.cons_append, cut, if_neg (Ne.symm h.1), ih h.2]

end SigV4.Text
