/-
  The SIGNED FORM of a value: how runs of blanks become single spaces.

  1. **Steps** — what `collapse` makes of a run of blanks, and of any other character but a quote.
  2. **What is kept** — every character that is not blank, as often as it was, within quotes and outside
     of them (`count_collapse`, `count_normalize`).
  3. **Without quotes** — a text is collapsed part by part, where the next part does not start with a blank
     (`collapse_append`); so a row of pieces is collapsed piece by piece (`collapse_join`), and collapsing
     tells whether a text was trimmed (`collapse_trim_eq_iff`).

  The crux of the last point is that a run of blanks never DISAPPEARS: at an end of the text it leaves a
  space, unless it was trimmed before.
-/
import SigV4.Header.Value
import SigV4.Proofs.Text.Trim

namespace SigV4.Text

/-- A cut takes a text apart AT THE SEPARATOR. -/
theorem append_of_cut {sep : Char} {cs before after : List Char}
    (h : cut sep cs = (before, some after)) : cs = before ++ sep :: after := by
  induction cs generalizing before with
  | nil => exact nomatch h
  | cons c cs ih =>
    rw [cut] at h
    split at h
    · rename_i hc
      obtain ⟨rfl, hafter⟩ := Prod.mk.inj h
      rw [hc, Option.some.inj hafter]
      rfl
    · obtain ⟨rfl, hafter⟩ := Prod.mk.inj h
      rw [List.cons_append, ← ih (Prod.ext rfl hafter)]

end SigV4.Text

namespace SigV4.Header

open Text

/-! ## Steps -/

theorem isBlank_doubleQuote : isBlank doubleQuote = false := by decide

theorem isBlank_comma : isBlank ',' = false := by decide

theorem collapse_nil : collapse [] = [] := by rw [collapse]

/-- A run of blanks is one space. -/
theorem collapse_blank {c : Char} (hc : isBlank c = true) (rest : List Char) :
    collapse (c :: rest) = ' ' :: collapse (dropBlanks rest) := by
  have hquote : c ≠ doubleQuote := by
    rintro rfl
    rw [isBlank_doubleQuote] at hc
    exact nomatch hc
  rw [collapse, if_neg hquote, if_pos hc]
  rfl

/-- A character that is neither blank nor a quote is copied. -/
theorem collapse_plain {c : Char} (hc : isBlank c = false) (hquote : c ≠ doubleQuote)
    (rest : List Char) : collapse (c :: rest) = c :: collapse rest := by
  rw [collapse, if_neg hquote, if_neg (by rw [hc]; decide)]

/-- Nothing disappears: only the empty text has an empty form. -/
theorem collapse_eq_nil_iff (cs : List Char) : collapse cs = [] ↔ cs = [] := by
  fun_cases collapse cs with
  | case1 => exact Iff.rfl
  | case2 | case3 | case4 | case5 => exact iff_of_false (List.cons_ne_nil _ _) (List.cons_ne_nil _ _)

/-! ## What is kept -/

/-- Collapsing keeps every character that is not blank AS OFTEN AS IT WAS. -/
theorem count_collapse {c : Char} (hc : isBlank c = false) (cs : List Char) :
    (collapse cs).count c = cs.count c := by
  fun_induction collapse cs with
  | case1 => rfl
  | case2 rest inside after hcut ih =>
    rw [append_of_cut hcut, List.cons_append, List.count_cons, List.count_cons, List.count_append,
      List.count_append, List.count_cons, List.count_cons, ih]
  | case3 rest inside hcut ih => rw [List.count_cons, List.count_cons, ih]
  | case4 d rest hquote hd ih =>
    have hspace : ' ' ≠ c := by
      rintro rfl
      exact absurd hc (by decide)
    have hne : d ≠ c := by
      rintro rfl
      rw [hd] at hc
      exact nomatch hc
    rw [List.count_cons_of_ne hspace, List.count_cons_of_ne hne, ih]
    exact count_dropBlanks hc rest
  | case5 d rest hquote hd ih => rw [List.count_cons, List.count_cons, ih]

/-- What is not blank is not in the collapsed text unless it was there before. -/
theorem not_mem_collapse {c : Char} (hc : isBlank c = false) {cs : List Char} (h : c ∉ cs) :
    c ∉ collapse cs := by
  rw [← List.count_eq_zero] at h ⊢
  rw [count_collapse hc, h]

/-- The signed form of a value keeps them, too. -/
theorem count_normalize {c : Char} (hc : isBlank c = false) (value : String) :
    (normalize value).toList.count c = value.toList.count c := by
  rw [normalize, String.toList_ofList, count_collapse hc, count_trim hc]

/-! ## Without quotes -/

/-- Blanks are dropped from the first part only, if the second does not start with one. -/
theorem dropBlanks_append_of_head {a b : List Char}
    (hb : ∀ c, b.head? = some c → isBlank c = false) :
    dropBlanks (a ++ b) = dropBlanks a ++ b := by
  unfold dropBlanks
  rw [List.dropWhile_append]
  split
  · rename_i hnil
    rw [List.isEmpty_iff.mp hnil]
    exact dropBlanks_of_head hb
  · rfl

/-- **PART BY PART.**  A text without quotes is collapsed for itself, before a text that does not start with
a blank. -/
theorem collapse_append {a b : List Char} (ha : doubleQuote ∉ a)
    (hb : ∀ c, b.head? = some c → isBlank c = false) :
    collapse (a ++ b) = collapse a ++ collapse b := by
  fun_induction collapse a with
  | case1 => rfl
  | case2 | case3 => exact absurd List.mem_cons_self ha
  | case4 c rest hquote hc ih =>
    have hrest : doubleQuote ∉ dropBlanks rest := fun h =>
      ha (List.mem_cons_of_mem c ((List.dropWhile_sublist isBlank).subset h))
    rw [List.cons_append, collapse_blank hc, dropBlanks_append_of_head hb]
    exact congrArg (' ' :: ·) (ih hrest)
  | case5 c rest hquote hc ih =>
    have hrest : doubleQuote ∉ rest := fun h => ha (List.mem_cons_of_mem c h)
    rw [List.cons_append, collapse_plain (Bool.eq_false_iff.mpr hc) hquote, ih hrest]
    rfl

/-- A row of pieces is collapsed PIECE BY PIECE. -/
theorem collapse_join {pieces : List (List Char)} (h : ∀ piece ∈ pieces, doubleQuote ∉ piece) :
    collapse (join ',' pieces) = join ',' (pieces.map collapse) := by
  induction pieces with
  | nil => exact collapse_nil
  | cons piece pieces ih =>
    by_cases hne : pieces = []
    · subst hne
      rfl
    · have hcomma : ∀ c, (',' :: join ',' pieces).head? = some c → isBlank c = false := by
        intro c hc
        rw [← Option.some.inj hc, isBlank_comma]
      rw [join_cons ',' piece hne, collapse_append (h piece List.mem_cons_self) hcomma,
        collapse_plain isBlank_comma (by decide), List.map_cons, join_cons ',' _ (by simpa using hne),
        ih fun p hp => h p (List.mem_cons_of_mem piece hp)]

/-- Blanks behind a text that does not end with one are collapsed for themselves. -/
theorem collapse_append_blanks {cs behind : List Char} (hquote : doubleQuote ∉ cs) (hne : cs ≠ [])
    (h : Trimmed cs) : collapse (cs ++ behind) = collapse cs ++ collapse behind := by
  obtain ⟨init, c, hcs⟩ := (List.eq_nil_or_concat cs).resolve_left hne
  rw [List.concat_eq_append] at hcs
  subst hcs
  have hc : isBlank c = false := h.stop c List.getLast?_concat
  have hplain : c ≠ doubleQuote := fun he => hquote (he ▸ List.mem_concat_self)
  have hinit : doubleQuote ∉ init := fun hmem => hquote (List.mem_append_left _ hmem)
  have hpart (rest : List Char) : collapse (init ++ c :: rest) = collapse init ++ c :: collapse rest := by
    have hhead : ∀ d, (c :: rest).head? = some d → isBlank d = false := by
      intro d hd
      rw [← Option.some.inj hd, hc]
    rw [collapse_append hinit hhead, collapse_plain hc hplain]
  calc collapse (init ++ [c] ++ behind)
      = collapse init ++ c :: collapse behind := by
        rw [List.append_assoc]
        exact hpart behind
    _ = collapse (init ++ [c]) ++ collapse behind := by
        rw [hpart [], collapse_nil, List.append_assoc]
        rfl

/-- **Collapsing tells whether a text without quotes was trimmed:** only then is it as if it had been. -/
theorem collapse_trim_eq_iff {cs : List Char} (h : doubleQuote ∉ cs) :
    collapse (trim cs) = collapse cs ↔ Trimmed cs := by
  constructor
  · intro heq
    obtain ⟨before, behind, hbefore, hbehind, hcs⟩ := exists_trim cs
    by_cases hnil : trim cs = []
    · -- nothing but blanks, and they would leave a space
      rw [hnil, collapse_nil] at heq
      rw [(collapse_eq_nil_iff cs).mp heq.symm]
      exact ⟨nofun, nofun⟩
    · have hquote : doubleQuote ∉ trim cs := by
        intro hmem
        exact h (hcs ▸ List.mem_append_left _ (List.mem_append_right _ hmem))
      have hhead : ∀ c, (trim cs ++ behind).head? = some c → isBlank c = false := by
        intro c hc
        obtain ⟨first, rest, hfirst⟩ := List.exists_cons_of_ne_nil hnil
        rw [hfirst] at hc
        exact (trimmed_trim cs).start c (by rw [hfirst]; exact hc)
      have hparts : collapse cs = collapse before ++ (collapse (trim cs) ++ collapse behind) := by
        refine (congrArg collapse hcs).trans ?_
        rw [List.append_assoc, collapse_append (hbefore.not_mem isBlank_doubleQuote) hhead,
          collapse_append_blanks hquote hnil (trimmed_trim cs)]
      have hlength : (collapse before).length + (collapse behind).length = 0 := by
        have hsame := congrArg List.length (heq.trans hparts)
        rw [List.length_append, List.length_append] at hsame
        omega
      have hbare : before = [] := by
        rw [← collapse_eq_nil_iff, ← List.length_eq_zero_iff]
        omega
      have hbare' : behind = [] := by
        rw [← collapse_eq_nil_iff, ← List.length_eq_zero_iff]
        omega
      rw [hcs, hbare, hbare', List.nil_append, List.append_nil]
      exact trimmed_trim cs
  · intro htrimmed
    rw [htrimmed.trim_eq]

end SigV4.Header
