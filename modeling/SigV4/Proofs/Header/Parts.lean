/-
  THE PARTS of a value: what stands in quotes, what stands outside of them, and the blanks between.

  1. **Parts** — text between two double quotes that are paired, a run of blanks outside of such, or any
     other character there.  Each has to fit what stands behind it (`Part.Fits`): a run of blanks goes on as
     far as there are blanks, and a quote stands alone only if there is none behind it to pair it with.
  2. **One reading** — every text has parts, and no others (`exists_reads`, `Reads.unique`); their quotes are
     paired from the left (`Reads.paired`).
  3. **The signed form** — `collapse` writes the parts one by one, a space for every run of blanks
     (`Reads.collapse_eq`).
  4. **Once is enough** — a signed form has no blanks at its ends and single spaces outside of quotes, so it
     is its own (`collapse_collapse`, `trimmed_collapse`).

  The crux is that whether a quote opens a pair is settled by what stands BEHIND it, and nothing that is
  written for what stands behind takes a quote away or adds one.
-/
import SigV4.Proofs.Header.Value

namespace SigV4.Text

/-- Nothing before a cut is the separator. -/
theorem not_mem_of_cut {sep : Char} {cs before : List Char} {after : Option (List Char)}
    (h : cut sep cs = (before, after)) : sep ∉ before := by
  induction cs generalizing before with
  | nil =>
    rw [← (Prod.mk.inj h).1]
    exact List.not_mem_nil
  | cons c cs ih =>
    rw [cut] at h
    split at h
    · rw [← (Prod.mk.inj h).1]
      exact List.not_mem_nil
    · rename_i hc
      obtain ⟨rfl, hafter⟩ := Prod.mk.inj h
      rw [List.mem_cons, not_or]
      exact ⟨Ne.symm hc, ih (Prod.ext rfl hafter)⟩

/-- Where no cut is made, the separator is nowhere. -/
theorem not_mem_of_cut_none {sep : Char} {cs before : List Char} (h : cut sep cs = (before, none)) :
    sep ∉ cs := by
  intro hmem
  obtain ⟨front, behind, hcs, hfront⟩ := List.eq_append_cons_of_mem hmem
  rw [hcs, cut_of_not_mem hfront] at h
  exact nomatch (Prod.mk.inj h).2

end SigV4.Text

namespace SigV4.Header

open Text

/-! ## Parts -/

/-- A part of a value. -/
inductive Part where
  /-- What stands between two double quotes, without them. -/
  | quoted (inside : List Char)
  /-- A run of blanks. -/
  | gap (blanks : List Char)
  /-- Any other character. -/
  | mark (c : Char)

namespace Part

/-- A part as it stands in the value. -/
def text : Part → List Char
  | quoted inside => doubleQuote :: inside ++ [doubleQuote]
  | gap blanks => blanks
  | mark c => [c]

/-- A part as it is signed: one space for a run of blanks, and every other part VERBATIM. -/
def signed : Part → List Char
  | gap _ => [' ']
  | part => part.text

/-- Whether a part is a run of blanks. -/
def isGap : Part → Bool
  | gap _ => true
  | _ => false

/-- What a part may be if the text `rest` stands behind it. -/
def Fits (rest : List Char) : Part → Prop
  | quoted inside => doubleQuote ∉ inside
  | gap blanks => blanks ≠ [] ∧ AllBlank blanks ∧ ∀ c, rest.head? = some c → isBlank c = false
  | mark c => isBlank c = false ∧ (c = doubleQuote → doubleQuote ∉ rest)

end Part

/-- The text that parts make up. -/
def textOf (parts : List Part) : List Char := parts.flatMap Part.text

/-- Parts of which each fits what stands behind it. -/
def Fit : List Part → Prop
  | [] => True
  | part :: parts => part.Fits (textOf parts) ∧ Fit parts

/-- **The parts of a text.** -/
structure Reads (parts : List Part) (cs : List Char) : Prop where
  text_eq : textOf parts = cs
  fit : Fit parts

/-- **Quotes that are paired from the left:** the first with the second, the third with the fourth, and so
on; an odd one that is left over is the last. -/
structure PairedFromLeft (parts : List Part) : Prop where
  pair : ∀ before inside behind, parts = before ++ .quoted inside :: behind →
    doubleQuote ∉ inside ∧ (textOf before).count doubleQuote % 2 = 0
  odd : ∀ before behind, parts = before ++ .mark doubleQuote :: behind →
    doubleQuote ∉ textOf behind ∧ (textOf before).count doubleQuote % 2 = 0

/-! ## One reading -/

theorem textOf_cons (part : Part) (parts : List Part) :
    textOf (part :: parts) = part.text ++ textOf parts := rfl

theorem text_quoted_append (inside rest : List Char) :
    (Part.quoted inside).text ++ rest = doubleQuote :: (inside ++ doubleQuote :: rest) :=
  List.append_assoc (doubleQuote :: inside) [doubleQuote] rest

/-- A part in front of what was read. -/
theorem Reads.cons {part : Part} {parts : List Part} {rest : List Char} (hpart : part.Fits rest)
    (h : Reads parts rest) : Reads (part :: parts) (part.text ++ rest) := by
  obtain ⟨rfl, hfit⟩ := h
  exact ⟨rfl, hpart, hfit⟩

/-- **Every text has parts.** -/
theorem exists_reads (cs : List Char) : ∃ parts, Reads parts cs := by
  fun_induction collapse cs with
  | case1 => exact ⟨[], rfl, trivial⟩
  | case2 rest inside after hcut ih =>
    obtain ⟨parts, hparts⟩ := ih
    have hinside : (Part.quoted inside).Fits after := not_mem_of_cut hcut
    have hquoted := hparts.cons hinside
    rw [text_quoted_append, ← append_of_cut hcut] at hquoted
    exact ⟨_, hquoted⟩
  | case3 rest inside hcut ih =>
    obtain ⟨parts, hparts⟩ := ih
    have hlone : (Part.mark doubleQuote).Fits rest :=
      ⟨isBlank_doubleQuote, fun _ => not_mem_of_cut_none hcut⟩
    exact ⟨_, hparts.cons hlone⟩
  | case4 c rest hquote hc ih =>
    obtain ⟨parts, hparts⟩ := ih
    have hrun : c :: rest = (c :: rest.takeWhile isBlank) ++ rest.dropWhile isBlank := by
      rw [List.cons_append, List.takeWhile_append_dropWhile]
    have hblank : AllBlank (c :: rest.takeWhile isBlank) := by
      intro d hd
      rcases List.mem_cons.mp hd with rfl | hd
      · exact hc
      · exact List.all_eq_true.mp List.all_takeWhile d hd
    rw [hrun]
    have hgap : (Part.gap (c :: rest.takeWhile isBlank)).Fits (rest.dropWhile isBlank) :=
      ⟨List.cons_ne_nil _ _, hblank, fun d hd => head?_dropBlanks hd⟩
    exact ⟨_, hparts.cons hgap⟩
  | case5 c rest hquote hc ih =>
    obtain ⟨parts, hparts⟩ := ih
    have hplain : (Part.mark c).Fits rest := ⟨Bool.eq_false_iff.mpr hc, fun h => absurd h hquote⟩
    exact ⟨_, hparts.cons hplain⟩

/-- Whether a part is a run of blanks shows in its FIRST CHARACTER. -/
theorem Part.Fits.head?_text {part : Part} {rest : List Char} (h : part.Fits rest) :
    ∃ c, (part.text ++ rest).head? = some c ∧ isBlank c = part.isGap := by
  cases part with
  | quoted inside => exact ⟨doubleQuote, rfl, isBlank_doubleQuote⟩
  | gap blanks =>
    obtain ⟨hne, hblank, -⟩ := h
    obtain ⟨c, cs, rfl⟩ := List.exists_cons_of_ne_nil hne
    exact ⟨c, rfl, hblank c List.mem_cons_self⟩
  | mark c => exact ⟨c, rfl, h.1⟩

/-- A run of blanks is dropped, and nothing behind it. -/
theorem dropBlanks_gap {blanks rest : List Char} (h : (Part.gap blanks).Fits rest) :
    dropBlanks (blanks ++ rest) = rest := by
  obtain ⟨-, hblank, hhead⟩ := h
  rw [dropBlanks_append hblank, dropBlanks_of_head hhead]

/-- A quote that stands alone opens no pair. -/
theorem text_quoted_ne {inside a b : List Char} {c : Char} (h : (Part.mark c).Fits b) :
    (Part.quoted inside).text ++ a ≠ (Part.mark c).text ++ b := by
  intro heq
  rw [text_quoted_append] at heq
  obtain ⟨hc, hrest⟩ := List.cons.inj heq
  have hb : inside ++ doubleQuote :: a = b := hrest
  refine h.2 hc.symm ?_
  rw [← hb]
  exact List.mem_append_right inside List.mem_cons_self

/-- **The first part of a text is settled by the text.** -/
theorem Part.Fits.unique {p q : Part} {a b : List Char} (hp : p.Fits a) (hq : q.Fits b)
    (h : p.text ++ a = q.text ++ b) : p = q ∧ a = b := by
  obtain ⟨c, hc, hpgap⟩ := hp.head?_text
  obtain ⟨d, hd, hqgap⟩ := hq.head?_text
  have hgap : p.isGap = q.isGap := by
    rw [h, hd] at hc
    rw [← hpgap, ← hqgap, Option.some.inj hc]
  cases p with
  | quoted inside =>
    cases q with
    | quoted inside' =>
      -- both end at the first quote behind the one that opens them
      rw [text_quoted_append, text_quoted_append] at h
      have hcut := congrArg (cut doubleQuote) (List.cons.inj h).2
      rw [cut_of_not_mem hp, cut_of_not_mem hq] at hcut
      obtain ⟨rfl, hrest⟩ := Prod.mk.inj hcut
      exact ⟨rfl, Option.some.inj hrest⟩
    | gap blanks => exact nomatch hgap
    | mark e => exact absurd h (text_quoted_ne hq)
  | gap blanks =>
    cases q with
    | gap blanks' =>
      have hrest : a = b := by
        rw [← dropBlanks_gap hp, ← dropBlanks_gap hq]
        exact congrArg dropBlanks h
      subst hrest
      exact ⟨congrArg Part.gap (List.append_cancel_right h), rfl⟩
    | quoted inside => exact nomatch hgap
    | mark e => exact nomatch hgap
  | mark e =>
    cases q with
    | mark e' =>
      obtain ⟨rfl, hrest⟩ := List.cons.inj h
      exact ⟨rfl, hrest⟩
    | quoted inside => exact absurd h.symm (text_quoted_ne hp)
    | gap blanks => exact nomatch hgap

/-- **A text has ONE row of parts.** -/
theorem Reads.unique {ps qs : List Part} {cs : List Char} (hp : Reads ps cs) (hq : Reads qs cs) :
    ps = qs := by
  induction ps generalizing qs cs with
  | nil =>
    cases qs with
    | nil => rfl
    | cons q qs =>
      obtain ⟨c, hc, -⟩ := hq.fit.1.head?_text
      rw [← textOf_cons, hq.text_eq, ← hp.text_eq] at hc
      exact nomatch hc
  | cons p ps ih =>
    cases qs with
    | nil =>
      obtain ⟨c, hc, -⟩ := hp.fit.1.head?_text
      rw [← textOf_cons, hp.text_eq, ← hq.text_eq] at hc
      exact nomatch hc
    | cons q qs =>
      have htext : p.text ++ textOf ps = q.text ++ textOf qs := hp.text_eq.trans hq.text_eq.symm
      obtain ⟨rfl, hrest⟩ := hp.fit.1.unique hq.fit.1 htext
      rw [ih ⟨rfl, hp.fit.2⟩ ⟨hrest.symm, hq.fit.2⟩]

theorem textOf_append (before behind : List Part) :
    textOf (before ++ behind) = textOf before ++ textOf behind := List.flatMap_append

theorem Fit.of_append {before behind : List Part} (h : Fit (before ++ behind)) : Fit behind := by
  induction before with
  | nil => exact h
  | cons part before ih => exact ih h.2

/-- Before parts with a quote in them, all quotes are paired. -/
theorem Fit.even_count {before behind : List Part} (h : Fit (before ++ behind))
    (hquote : doubleQuote ∈ textOf behind) : (textOf before).count doubleQuote % 2 = 0 := by
  induction before with
  | nil => rfl
  | cons part before ih =>
    obtain ⟨hpart, hrest⟩ := h
    have hbehind : doubleQuote ∈ textOf (before ++ behind) := by
      rw [textOf_append]
      exact List.mem_append_right _ hquote
    have hcount : part.text.count doubleQuote % 2 = 0 := by
      cases part with
      | quoted inside =>
        rw [Part.text, List.cons_append, List.count_cons_self, List.count_append,
          List.count_eq_zero_of_not_mem hpart]
        rfl
      | gap blanks =>
        rw [Part.text, List.count_eq_zero_of_not_mem (hpart.2.1.not_mem isBlank_doubleQuote)]
      | mark c =>
        have hc : c ≠ doubleQuote := fun hc => hpart.2 hc hbehind
        rw [Part.text, List.count_eq_zero_of_not_mem (by simpa using Ne.symm hc)]
    rw [textOf_cons, List.count_append]
    have := ih hrest
    omega

/-- **The quotes of a text are paired from the left.** -/
theorem Reads.paired {parts : List Part} {cs : List Char} (h : Reads parts cs) : PairedFromLeft parts := by
  constructor
  · rintro before inside behind rfl
    exact ⟨h.fit.of_append.1, h.fit.even_count List.mem_cons_self⟩
  · rintro before behind rfl
    exact ⟨h.fit.of_append.1.2 rfl, h.fit.even_count List.mem_cons_self⟩

/-! ## The signed form -/

/-- Text in quotes is copied, whatever it is. -/
theorem collapse_quoted {inside : List Char} (h : doubleQuote ∉ inside) (rest : List Char) :
    collapse (doubleQuote :: (inside ++ doubleQuote :: rest))
      = doubleQuote :: (inside ++ doubleQuote :: collapse rest) := by
  rw [collapse, if_pos rfl]
  split
  · rename_i inside' after hcut
    rw [cut_of_not_mem h] at hcut
    obtain ⟨rfl, hafter⟩ := Prod.mk.inj hcut
    rw [Option.some.inj hafter]
    rfl
  · rename_i inside' hcut
    rw [cut_of_not_mem h] at hcut
    exact absurd (Prod.mk.inj hcut).2 (Option.some_ne_none _)

/-- A quote with none behind it is copied like any other character. -/
theorem collapse_lone {rest : List Char} (h : doubleQuote ∉ rest) :
    collapse (doubleQuote :: rest) = doubleQuote :: collapse rest := by
  rw [collapse, if_pos rfl]
  split
  · rename_i inside after hcut
    rw [append_of_cut hcut] at h
    exact absurd (List.mem_append_right inside List.mem_cons_self) h
  · rfl

/-- A run of blanks is one space, if it is a whole one. -/
theorem collapse_gap {blanks rest : List Char} (h : (Part.gap blanks).Fits rest) :
    collapse (blanks ++ rest) = ' ' :: collapse rest := by
  have hrest := dropBlanks_gap h
  obtain ⟨hne, hblank, -⟩ := h
  obtain ⟨c, cs, rfl⟩ := List.exists_cons_of_ne_nil hne
  have hc : isBlank c = true := hblank c List.mem_cons_self
  -- the run is dropped with its first blank or without it
  have hdrop : dropBlanks (cs ++ rest) = dropBlanks (c :: cs ++ rest) := by
    rw [List.cons_append, dropBlanks, dropBlanks, List.dropWhile_cons_of_pos hc]
  rw [List.cons_append, collapse_blank hc, hdrop, hrest]

/-- **A text is collapsed part by part.** -/
theorem Reads.collapse_eq {parts : List Part} {cs : List Char} (h : Reads parts cs) :
    collapse cs = parts.flatMap Part.signed := by
  obtain ⟨rfl, hfit⟩ := h
  induction parts with
  | nil => exact collapse_nil
  | cons part parts ih =>
    obtain ⟨hpart, hrest⟩ := hfit
    rw [textOf_cons, List.flatMap_cons, ← ih hrest]
    cases part with
    | quoted inside =>
      show _ = (Part.quoted inside).text ++ _
      rw [text_quoted_append, text_quoted_append]
      exact collapse_quoted hpart (textOf parts)
    | gap blanks => exact collapse_gap hpart
    | mark c =>
      by_cases hc : c = doubleQuote
      · subst hc
        exact collapse_lone (hpart.2 rfl)
      · exact collapse_plain hpart.1 hc (textOf parts)

/-! ## Once is enough -/

/-- Nothing but a run of blanks changes at the start of a text. -/
theorem head?_collapse {cs : List Char} (h : ∀ c, cs.head? = some c → isBlank c = false) :
    (collapse cs).head? = cs.head? := by
  fun_cases collapse cs with
  | case1 => rfl
  | case2 | case3 | case5 => rfl
  | case4 c rest hquote hc =>
    rw [h c rfl] at hc
    exact absurd hc Bool.false_ne_true

/-- **A collapsed text is collapsed.** -/
theorem collapse_collapse (cs : List Char) : collapse (collapse cs) = collapse cs := by
  fun_induction collapse cs with
  | case1 => exact collapse_nil
  | case2 rest inside after hcut ih =>
    rw [List.cons_append, collapse_quoted (not_mem_of_cut hcut), ih]
  | case3 rest inside hcut ih =>
    have hlone : doubleQuote ∉ rest := not_mem_of_cut_none hcut
    rw [collapse_lone (not_mem_collapse isBlank_doubleQuote hlone), ih]
  | case4 c rest hquote hc ih =>
    -- no blank is left to join the space
    have hhead : ∀ d, (collapse (dropBlanks rest)).head? = some d → isBlank d = false := by
      intro d hd
      rw [head?_collapse fun e he => head?_dropBlanks he] at hd
      exact head?_dropBlanks hd
    rw [collapse_blank (by decide)]
    show ' ' :: collapse (dropBlanks (collapse (dropBlanks rest))) = ' ' :: collapse (dropBlanks rest)
    rw [dropBlanks_of_head hhead]
    exact congrArg _ ih
  | case5 c rest hquote hc ih =>
    rw [collapse_plain (Bool.eq_false_iff.mpr hc) hquote, ih]

/-- A text that does not end with a blank KEEPS ITS END. -/
theorem getLast?_collapse {cs : List Char} {c : Char} (h : cs.getLast? = some c)
    (hc : isBlank c = false) : (collapse cs).getLast? = some c := by
  obtain ⟨parts, hparts⟩ := exists_reads cs
  obtain ⟨front, last, rfl⟩ : ∃ front last, parts = front ++ [last] := by
    rcases List.eq_nil_or_concat parts with rfl | ⟨front, last, hconcat⟩
    · rw [← hparts.text_eq] at h
      exact nomatch h
    · rw [List.concat_eq_append] at hconcat
      exact ⟨front, last, hconcat⟩
  have hlast : last.Fits [] := hparts.fit.of_append.1
  have hend : last.text.getLast? = some c := by
    obtain ⟨first, hfirst, -⟩ := hlast.head?_text
    rw [List.append_nil] at hfirst
    have hne : last.text ≠ [] := by
      intro hnil
      rw [hnil] at hfirst
      exact nomatch hfirst
    rw [← h, ← hparts.text_eq, textOf_append, textOf_cons, List.getLast?_append]
    show _ = (last.text ++ []).getLast?.or _
    rw [List.append_nil, List.getLast?_eq_some_getLast hne]
    rfl
  have hsigned : last.signed = last.text := by
    cases last with
    | quoted inside => rfl
    | mark d => rfl
    | gap blanks =>
      -- the last character would be one of the blanks
      have hblank : isBlank c = true := hlast.2.1 c (List.mem_of_getLast? hend)
      rw [hc] at hblank
      exact nomatch hblank
  rw [hparts.collapse_eq, List.flatMap_append, List.flatMap_singleton, hsigned, List.getLast?_append,
    hend]
  rfl

/-- A text without blanks at its ends has none there once it is collapsed. -/
theorem trimmed_collapse {cs : List Char} (h : Trimmed cs) : Trimmed (collapse cs) := by
  constructor
  · intro c hc
    rw [head?_collapse h.start] at hc
    exact h.start c hc
  · intro c hc
    cases hlast : cs.getLast? with
    | none =>
      rw [List.getLast?_eq_none_iff.mp hlast, collapse_nil] at hc
      exact nomatch hc
    | some d =>
      have hd := h.stop d hlast
      rw [getLast?_collapse hlast hd] at hc
      rw [← Option.some.inj hc]
      exact hd

/-- **THE SIGNED FORM OF A VALUE.**  A value is blanks, a text without blanks at its ends, and blanks.  That
text has one row of parts, whose quotes are paired from the left; and what is signed are those parts in
order, text in quotes and every other character verbatim, and one space for every run of blanks.  The signed
form of a signed form is that form. -/
theorem normalize_parts (value : String) :
    (∃ before core behind, value.toList = before ++ core ++ behind
        ∧ AllBlank before ∧ AllBlank behind ∧ Trimmed core
        ∧ ∃ parts, (∀ other, Reads other core ↔ other = parts) ∧ PairedFromLeft parts
          ∧ (normalize value).toList = parts.flatMap Part.signed)
      ∧ normalize (normalize value) = normalize value := by
  have hnormal : (normalize value).toList = collapse (trim value.toList) := by
    rw [normalize, String.toList_ofList]
  constructor
  · obtain ⟨before, behind, hbefore, hbehind, hvalue⟩ := exists_trim value.toList
    obtain ⟨parts, hparts⟩ := exists_reads (trim value.toList)
    refine ⟨before, trim value.toList, behind, hvalue, hbefore, hbehind, trimmed_trim _, parts, ?_,
      hparts.paired, ?_⟩
    · intro other
      constructor
      · intro hother
        exact hother.unique hparts
      · rintro rfl
        exact hparts
    · rw [hnormal, hparts.collapse_eq]
  · have htrim : trim (collapse (trim value.toList)) = collapse (trim value.toList) :=
      (trimmed_collapse (trimmed_trim _)).trim_eq
    refine String.toList_injective ?_
    rw [normalize, String.toList_ofList, hnormal, htrim, collapse_collapse]

end SigV4.Header
