/-
  TRIMMING a text, and the pieces of a text that was trimmed.

  1. **The parts** — a text is blanks, what is left once it is trimmed, and blanks (`exists_trim`); and what
     is left has no blank at either end (`Trimmed`).
  2. **What is kept** — every character that is not blank, as often as it was (`count_trim`).
  3. **Pieces** — a text is cut at a separator that is not blank.  Blanks at its ends belong to the first
     and to the last piece, so once the pieces are trimmed too they are THE SAME whether the text was
     trimmed before or not (`map_trim_split`).

  The crux is the last piece: a piece is found from the left, the blanks behind it from the right.
-/
import SigV4.Proofs.Text.Pieces
import SigV4.Text.Blank

namespace SigV4.Text

/-- Nothing but blanks. -/
def AllBlank (cs : List Char) : Prop := ∀ c ∈ cs, isBlank c = true

/-- A text that neither starts nor ends with a blank. -/
structure Trimmed (cs : List Char) : Prop where
  start : ∀ c, cs.head? = some c → isBlank c = false
  stop : ∀ c, cs.getLast? = some c → isBlank c = false

theorem AllBlank.not_mem {cs : List Char} (h : AllBlank cs) {c : Char} (hc : isBlank c = false) :
    c ∉ cs := by
  intro hmem
  rw [h c hmem] at hc
  exact nomatch hc

/-! ## The parts -/

/-- A text is blanks, and what is left once those are dropped. -/
theorem exists_dropBlanks (cs : List Char) :
    ∃ blanks, AllBlank blanks ∧ cs = blanks ++ dropBlanks cs := by
  refine ⟨cs.takeWhile isBlank, fun c hc => ?_, List.takeWhile_append_dropWhile.symm⟩
  exact (List.all_eq_true.mp List.all_takeWhile) c hc

theorem head?_dropBlanks {cs : List Char} {c : Char} (h : (dropBlanks cs).head? = some c) :
    isBlank c = false := by
  have hnot := List.head?_dropWhile_not isBlank cs
  rw [show (cs.dropWhile isBlank).head? = some c from h] at hnot
  exact hnot

/-- Blanks before a text are dropped with its own. -/
theorem dropBlanks_append {blanks : List Char} (h : AllBlank blanks) (cs : List Char) :
    dropBlanks (blanks ++ cs) = dropBlanks cs :=
  List.dropWhile_append_of_pos h

theorem dropBlanks_of_allBlank {cs : List Char} (h : AllBlank cs) : dropBlanks cs = [] := by
  have happend := dropBlanks_append h []
  rwa [List.append_nil] at happend

/-- A text that does not start with a blank is left as it is. -/
theorem dropBlanks_of_head {cs : List Char} (h : ∀ c, cs.head? = some c → isBlank c = false) :
    dropBlanks cs = cs := by
  cases cs with
  | nil => rfl
  | cons c cs => exact List.dropWhile_cons_of_neg (by rw [h c rfl]; decide)

/-- Behind what trimming leaves there are only blanks. -/
theorem exists_trim_right (cs : List Char) :
    ∃ behind, AllBlank behind ∧ dropBlanks cs = trim cs ++ behind := by
  obtain ⟨behind, hbehind, hrest⟩ := exists_dropBlanks (dropBlanks cs).reverse
  refine ⟨behind.reverse, fun c hc => hbehind c (List.mem_reverse.mp hc), ?_⟩
  rw [← List.reverse_reverse (dropBlanks cs), hrest, List.reverse_append]
  rfl

/-- **A text is blanks, what trimming leaves of it, and blanks.** -/
theorem exists_trim (cs : List Char) :
    ∃ before behind, AllBlank before ∧ AllBlank behind ∧ cs = before ++ trim cs ++ behind := by
  obtain ⟨before, hbefore, hcs⟩ := exists_dropBlanks cs
  obtain ⟨behind, hbehind, hparts⟩ := exists_trim_right cs
  refine ⟨before, behind, hbefore, hbehind, ?_⟩
  rw [List.append_assoc, ← hparts]
  exact hcs

/-- What trimming leaves has NO BLANK AT EITHER END. -/
theorem trimmed_trim (cs : List Char) : Trimmed (trim cs) := by
  constructor
  · intro c hc
    obtain ⟨behind, -, hparts⟩ := exists_trim_right cs
    have hhead : (dropBlanks cs).head? = some c := by
      rw [hparts, List.head?_append, hc]
      rfl
    exact head?_dropBlanks hhead
  · intro c hc
    have hlast : (dropBlanks (dropBlanks cs).reverse).head? = some c := by
      rw [← List.getLast?_reverse]
      exact hc
    exact head?_dropBlanks hlast

/-- A text without blanks at its ends is left as it is by trimming. -/
theorem Trimmed.trim_eq {cs : List Char} (h : Trimmed cs) : trim cs = cs := by
  have hstart : dropBlanks cs = cs := dropBlanks_of_head h.start
  have hstop : dropBlanks cs.reverse = cs.reverse := by
    refine dropBlanks_of_head fun c hc => h.stop c ?_
    rw [← hc, List.head?_reverse]
  rw [trim, hstart, hstop, List.reverse_reverse]

/-- A text is trimmed IF AND ONLY IF trimming leaves it as it is. -/
theorem trim_eq_iff {cs : List Char} : trim cs = cs ↔ Trimmed cs :=
  ⟨fun h => h ▸ trimmed_trim cs, Trimmed.trim_eq⟩

instance (cs : List Char) : Decidable (Trimmed cs) := decidable_of_iff _ trim_eq_iff

/-- Blanks before a text and behind it are trimmed with its own. -/
theorem trim_append {before behind : List Char} (hbefore : AllBlank before)
    (hbehind : AllBlank behind) (cs : List Char) : trim (before ++ cs ++ behind) = trim cs := by
  have hreverse : AllBlank behind.reverse := fun c hc => hbehind c (List.mem_reverse.mp hc)
  unfold trim
  rw [List.append_assoc, dropBlanks_append hbefore]
  obtain ⟨blanks, hblanks, hcs⟩ := exists_dropBlanks cs
  cases hrest : dropBlanks cs with
  | nil =>
    -- nothing but blanks is left of either
    rw [hrest, List.append_nil] at hcs
    have hall : dropBlanks (cs ++ behind) = [] := by
      rw [hcs, dropBlanks_append hblanks, dropBlanks_of_allBlank hbehind]
    rw [hall]
  | cons c rest =>
    have hhead : (dropBlanks cs).head? = some c := by rw [hrest, List.head?_cons]
    have hc : isBlank c = false := head?_dropBlanks hhead
    have hall : dropBlanks (cs ++ behind) = (c :: rest) ++ behind := by
      rw [hcs, hrest, List.append_assoc, dropBlanks_append hblanks]
      exact dropBlanks_of_head fun d hd => (Option.some.inj hd) ▸ hc
    rw [hall, List.reverse_append, dropBlanks_append hreverse]

/-! ## What is kept -/

/-- Dropping blanks keeps every other character as often as it was. -/
theorem count_dropBlanks {c : Char} (hc : isBlank c = false) (cs : List Char) :
    (dropBlanks cs).count c = cs.count c := by
  obtain ⟨blanks, hblanks, hcs⟩ := exists_dropBlanks cs
  calc (dropBlanks cs).count c
      = blanks.count c + (dropBlanks cs).count c := by
        rw [List.count_eq_zero_of_not_mem (hblanks.not_mem hc), Nat.zero_add]
    _ = (blanks ++ dropBlanks cs).count c := List.count_append.symm
    _ = cs.count c := by rw [← hcs]

/-- Trimming keeps every character that is not blank AS OFTEN AS IT WAS. -/
theorem count_trim {c : Char} (hc : isBlank c = false) (cs : List Char) :
    (trim cs).count c = cs.count c := by
  rw [trim, List.count_reverse, count_dropBlanks hc, List.count_reverse, count_dropBlanks hc]

/-! ## Pieces -/

/-- **THE TRIMMED PIECES OF A TEXT ARE THOSE OF THE TRIMMED TEXT.** -/
theorem map_trim_split {sep : Char} (hsep : isBlank sep = false) (cs : List Char) :
    (split sep (trim cs)).map trim = (split sep cs).map trim := by
  obtain ⟨before, behind, hbefore, hbehind, hcs⟩ := exists_trim cs
  have hnone : AllBlank [] := nofun
  have hleft : (split sep (before ++ trim cs)).map trim = (split sep (trim cs)).map trim := by
    obtain ⟨piece, pieces, hsplit, happend⟩ := split_append_left (hbefore.not_mem hsep) (trim cs)
    have hpiece : trim (before ++ piece) = trim piece := by
      have h := trim_append hbefore hnone piece
      rwa [List.append_nil] at h
    rw [happend, hsplit, List.map_cons, List.map_cons, hpiece]
  have hright : (split sep (before ++ trim cs ++ behind)).map trim
      = (split sep (before ++ trim cs)).map trim := by
    obtain ⟨pieces, piece, hsplit, happend⟩ :=
      split_append_right (hbehind.not_mem hsep) (before ++ trim cs)
    have hpiece : trim (piece ++ behind) = trim piece := trim_append hnone hbehind piece
    rw [happend, hsplit, List.map_append, List.map_append, List.map_singleton, List.map_singleton,
      hpiece]
  rw [← hleft, ← hright, ← hcs]

end SigV4.Text
