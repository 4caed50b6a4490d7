/-
  QUOTED VALUES: a value in double quotes, as it is written, as it is read, and as it is signed.

  1. **Reading** — `readQuoted` takes one quoted string off a text; behind a backslash any character stands
     for itself.  What `quote` writes is read as the value, and nothing is left over (`readQuoted_quote`).
  2. **Every other piece** — an escaped quote is a quote for `collapse`, which knows no escapes.  So of the
     pieces of a value between its quotes, the first, the third and so on stand in a pair once the value is
     quoted, and the others stand OUTSIDE (`collapse_quoted_join`).
  3. **The signed form** — `normalize_quote`: signing a quoted value is quoting the value whose other pieces
     were collapsed.  So it is left as it is if and only if those have single spaces only (`Settled`).

  The crux is that two readers of one string disagree about where it ends: for the one that knows escapes at
  the closing quote, for `collapse` at the first quote of the value.
-/
import SigV4.Proofs.Header.Line
import SigV4.Proofs.Header.Parts

namespace SigV4.Text

/-! ## Every other element -/

variable {α : Type}

/-- The second element of a list, the fourth, and so on. -/
def everyOther : List α → List α
  | _ :: second :: rest => second :: everyOther rest
  | _ => []

theorem mem_of_mem_everyOther {x : α} {xs : List α} (h : x ∈ everyOther xs) : x ∈ xs := by
  fun_induction everyOther xs with
  | case1 first second rest ih =>
    rw [List.mem_cons] at h
    rcases h with rfl | h
    · exact List.mem_cons_of_mem _ List.mem_cons_self
    · exact List.mem_cons_of_mem _ (List.mem_cons_of_mem _ (ih h))
  | case2 => exact nomatch h

/-- A list with its second element changed, its fourth, and so on. -/
def changeOther (f : α → α) : List α → List α
  | first :: second :: rest => first :: f second :: changeOther f rest
  | rest => rest

theorem changeOther_ne_nil (f : α → α) {xs : List α} (h : xs ≠ []) : changeOther f xs ≠ [] := by
  fun_cases changeOther f xs with
  | case1 first second rest => exact List.cons_ne_nil _ _
  | case2 => exact h

/-- Nothing changes IF AND ONLY IF none of those elements does. -/
theorem changeOther_eq_iff (f : α → α) (xs : List α) :
    changeOther f xs = xs ↔ ∀ x ∈ everyOther xs, f x = x := by
  fun_induction everyOther xs with
  | case1 first second rest ih =>
    rw [changeOther, List.cons.injEq, List.cons.injEq, ih, List.forall_mem_cons]
    exact and_iff_right rfl
  | case2 xs hshort =>
    rw [changeOther]
    · exact iff_of_true rfl fun x hx => nomatch hx
    · exact hshort

/-- Elements that had a property still have it, if the change keeps it. -/
theorem forall_mem_changeOther {f : α → α} {P : α → Prop} (hf : ∀ x, P x → P (f x)) {xs : List α}
    (h : ∀ x ∈ xs, P x) : ∀ x ∈ changeOther f xs, P x := by
  fun_induction changeOther f xs with
  | case1 first second rest ih =>
    intro x hx
    rw [List.mem_cons, List.mem_cons] at hx
    rcases hx with rfl | rfl | hx
    · exact h x List.mem_cons_self
    · exact hf second (h second (List.mem_cons_of_mem _ List.mem_cons_self))
    · exact ih (fun y hy => h y (List.mem_cons_of_mem _ (List.mem_cons_of_mem _ hy))) x hx
  | case2 => exact h

end SigV4.Text

namespace SigV4.Header

open Text

/-! ## Reading -/

/-- Reads on between double quotes up to the one that closes: what stands inside, and what behind.  A
character with a backslash before it is taken as it is. -/
def readInside : Bool → List Char → Option (List Char × List Char)
  | _, [] => none
  | true, c :: rest => (readInside false rest).map fun (inside, behind) => (c :: inside, behind)
  | false, c :: rest =>
    if c = doubleQuote then some ([], rest)
    else if c = backslash then readInside true rest
    else (readInside false rest).map fun (inside, behind) => (c :: inside, behind)

/-- **Takes one quoted string off a text.** -/
def readQuoted : List Char → Option (List Char × List Char)
  | [] => none
  | c :: rest => if c = doubleQuote then readInside false rest else none

/-- A text with a backslash before each double quote and each backslash. -/
def escape (cs : List Char) : List Char := cs.flatMap escapeChar

/-- An escaped character is read as the character. -/
theorem readInside_escapeChar (c : Char) (rest : List Char) :
    readInside false (escapeChar c ++ rest)
      = (readInside false rest).map fun (inside, behind) => (c :: inside, behind) := by
  rw [escapeChar]
  split
  · rfl
  · rename_i hc
    rw [not_or] at hc
    rw [List.cons_append, List.nil_append, readInside, if_neg hc.1, if_neg hc.2]

/-- What was escaped is read, up to the quote behind it. -/
theorem readInside_escape (cs behind : List Char) :
    readInside false (escape cs ++ doubleQuote :: behind) = some (cs, behind) := by
  induction cs with
  | nil => rfl
  | cons c cs ih =>
    rw [escape, List.flatMap_cons, List.append_assoc, readInside_escapeChar]
    show (readInside false (escape cs ++ doubleQuote :: behind)).map _ = _
    rw [ih]
    rfl

theorem toList_quote {value : String} (h : Marked value) :
    (quote value).toList = doubleQuote :: (escape value.toList ++ [doubleQuote]) := by
  have hquoted : quote value
      = String.ofList (doubleQuote :: value.toList.flatMap escapeChar ++ [doubleQuote]) := if_pos h
  rw [hquoted, String.toList_ofList]
  rfl

/-- **A QUOTED VALUE IS ONE QUOTED STRING,** which is read as the value. -/
theorem readQuoted_quote {value : String} (h : Marked value) (behind : List Char) :
    readQuoted ((quote value).toList ++ behind) = some (value.toList, behind) := by
  rw [toList_quote h, List.cons_append, List.append_assoc]
  exact readInside_escape value.toList behind

/-! ## Escaping and collapsing -/

theorem isBlank_backslash : isBlank backslash = false := by decide

/-- A backslash is a character like any other for the signed form. -/
theorem collapse_backslash (rest : List Char) : collapse (backslash :: rest) = backslash :: collapse rest :=
  collapse_plain isBlank_backslash (by decide) rest

theorem escape_cons (c : Char) (cs : List Char) : escape (c :: cs) = escapeChar c ++ escape cs := rfl

theorem escape_append (a b : List Char) : escape (a ++ b) = escape a ++ escape b := List.flatMap_append

theorem not_mem_escape {cs : List Char} (h : doubleQuote ∉ cs) : doubleQuote ∉ escape cs := by
  rw [← List.count_eq_zero, escape, count_escape, List.count_eq_zero]
  exact h

theorem escapeChar_of_blank {c : Char} (hc : isBlank c = true) : escapeChar c = [c] := by
  have hquote : c ≠ doubleQuote := by
    rintro rfl
    exact absurd hc (by decide)
  have hbackslash : c ≠ backslash := by
    rintro rfl
    exact absurd hc (by decide)
  exact if_neg (not_or.mpr ⟨hquote, hbackslash⟩)

/-- A character that is not blank is not escaped by one. -/
theorem head?_escapeChar {c : Char} (hc : isBlank c = false) (rest : List Char) :
    ∀ d, (escapeChar c ++ rest).head? = some d → isBlank d = false := by
  rw [escapeChar]
  split
  · intro d hd
    rw [← Option.some.inj hd, isBlank_backslash]
  · intro d hd
    rw [← Option.some.inj hd, hc]

/-- Blanks may be dropped before a text is escaped, or behind that. -/
theorem dropBlanks_escape (cs : List Char) : dropBlanks (escape cs) = escape (dropBlanks cs) := by
  induction cs with
  | nil => rfl
  | cons c cs ih =>
    cases hc : isBlank c with
    | true =>
      rw [escape_cons, escapeChar_of_blank hc, dropBlanks, dropBlanks, List.cons_append,
        List.dropWhile_cons_of_pos hc, List.dropWhile_cons_of_pos hc]
      exact ih
    | false =>
      have hkept : dropBlanks (c :: cs) = c :: cs := by
        refine dropBlanks_of_head fun d hd => ?_
        rw [← Option.some.inj hd, hc]
      rw [hkept, escape_cons]
      exact dropBlanks_of_head (head?_escapeChar hc (escape cs))

/-- Text without quotes may be collapsed before it is escaped, or behind that. -/
theorem collapse_escape {cs : List Char} (h : doubleQuote ∉ cs) :
    collapse (escape cs) = escape (collapse cs) := by
  fun_induction collapse cs with
  | case1 => exact collapse_nil
  | case2 | case3 => exact absurd List.mem_cons_self h
  | case4 c rest hquote hc ih =>
    have hrest : doubleQuote ∉ dropBlanks rest := fun hmem =>
      h (List.mem_cons_of_mem c ((List.dropWhile_sublist isBlank).subset hmem))
    rw [escape_cons, escapeChar_of_blank hc, List.cons_append, List.nil_append, collapse_blank hc,
      dropBlanks_escape, escape_cons, escapeChar_of_blank (by decide)]
    exact congrArg _ (ih hrest)
  | case5 c rest hquote hc ih =>
    have hrest : doubleQuote ∉ rest := fun hmem => h (List.mem_cons_of_mem c hmem)
    have hblank : isBlank c = false := Bool.eq_false_iff.mpr hc
    rw [escape_cons, escape_cons, ← ih hrest, escapeChar]
    split
    · rw [List.cons_append, List.cons_append, List.nil_append, collapse_backslash,
        collapse_plain hblank hquote]
      rfl
    · rw [List.cons_append, List.nil_append, collapse_plain hblank hquote]
      rfl

/-! ## Every other piece -/

theorem escape_join {piece : List Char} {pieces : List (List Char)} (h : pieces ≠ []) :
    escape (join doubleQuote (piece :: pieces))
      = escape piece ++ backslash :: doubleQuote :: escape (join doubleQuote pieces) := by
  rw [join_cons doubleQuote piece h, escape_append]
  rfl

/-- The piece that an opening quote stands before is IN A PAIR, with the backslash of the next quote. -/
theorem collapse_inside {piece : List Char} (h : doubleQuote ∉ piece) (behind : List Char) :
    collapse (doubleQuote :: (escape piece ++ backslash :: doubleQuote :: behind))
      = doubleQuote :: (escape piece ++ backslash :: doubleQuote :: collapse behind) := by
  have hinside : doubleQuote ∉ escape piece ++ [backslash] := by
    rw [List.mem_append, not_or]
    exact ⟨not_mem_escape h, by decide⟩
  have hquoted := collapse_quoted hinside behind
  rwa [List.append_assoc, List.append_assoc] at hquoted

/-- The piece behind a pair stands OUTSIDE. -/
theorem collapse_outside {piece behind : List Char} (h : doubleQuote ∉ piece)
    (hbehind : ∀ c, behind.head? = some c → isBlank c = false) :
    collapse (escape piece ++ behind) = escape (collapse piece) ++ collapse behind := by
  rw [collapse_append (not_mem_escape h) hbehind, collapse_escape h]

/-- **A row of pieces between double quotes:** every other piece is collapsed. -/
theorem collapse_quoted_join {pieces : List (List Char)} (hne : pieces ≠ [])
    (h : ∀ piece ∈ pieces, doubleQuote ∉ piece) :
    collapse (doubleQuote :: (escape (join doubleQuote pieces) ++ [doubleQuote]))
      = doubleQuote :: (escape (join doubleQuote (changeOther collapse pieces)) ++ [doubleQuote]) := by
  have hclose : collapse [doubleQuote] = [doubleQuote] := by
    rw [collapse_lone List.not_mem_nil, collapse_nil]
  fun_induction changeOther collapse pieces with
  | case1 first second rest ih =>
    have hfirst : doubleQuote ∉ first := h first List.mem_cons_self
    have hsecond : doubleQuote ∉ second := h second (List.mem_cons_of_mem _ List.mem_cons_self)
    rw [escape_join (List.cons_ne_nil second rest), escape_join (List.cons_ne_nil _ _)]
    simp only [List.append_assoc, List.cons_append]
    rw [collapse_inside hfirst]
    by_cases hrest : rest = []
    · subst hrest
      have hhead : ∀ c, [doubleQuote].head? = some c → isBlank c = false := by
        intro c hc
        rw [← Option.some.inj hc, isBlank_doubleQuote]
      have hlast := collapse_outside hsecond hhead
      rw [hclose] at hlast
      exact congrArg (fun behind => doubleQuote :: (escape first ++ backslash :: doubleQuote :: behind)) hlast
    · -- the next quote opens a pair again
      have hbehind := ih hrest fun piece hpiece => h piece (by simp [hpiece])
      rw [escape_join hrest, escape_join (changeOther_ne_nil collapse hrest)]
      simp only [List.append_assoc, List.cons_append]
      rw [collapse_outside hsecond, collapse_backslash, hbehind]
      intro c hc
      rw [← Option.some.inj hc, isBlank_backslash]
  | case2 pieces hshort =>
    -- one piece, in one pair
    obtain ⟨piece, more, rfl⟩ := List.exists_cons_of_ne_nil hne
    cases more with
    | nil =>
      have hpiece := collapse_quoted (not_mem_escape (h piece List.mem_cons_self)) []
      rw [collapse_nil] at hpiece
      exact hpiece
    | cons next more => exact absurd rfl (hshort piece next more)

/-! ## The signed form -/

/-- A text whose pieces are collapsed, every other one, from the second on. -/
def collapseOther (value : String) : String :=
  String.ofList (join doubleQuote (changeOther collapse (split doubleQuote value.toList)))

/-- Nothing but blanks is lost. -/
theorem count_join_changeOther {c : Char} (hc : isBlank c = false) (pieces : List (List Char)) :
    (join doubleQuote (changeOther collapse pieces)).count c = (join doubleQuote pieces).count c := by
  fun_induction changeOther collapse pieces with
  | case1 first second rest ih =>
    rw [join_cons _ _ (List.cons_ne_nil _ _), join_cons _ _ (List.cons_ne_nil _ _), List.count_append,
      List.count_append, List.count_cons, List.count_cons]
    by_cases hrest : rest = []
    · subst hrest
      show _ + ((collapse second).count c + _) = _
      rw [count_collapse hc]
      rfl
    · rw [join_cons _ _ hrest, join_cons _ _ (changeOther_ne_nil collapse hrest), List.count_append,
        List.count_append, List.count_cons, List.count_cons, count_collapse hc, ih]
  | case2 => rfl

/-- Collapsing pieces of a value adds no marks and takes none away. -/
theorem marked_collapseOther {value : String} (h : Marked value) : Marked (collapseOther value) := by
  have hcount {c : Char} (hc : isBlank c = false) :
      (collapseOther value).toList.count c = value.toList.count c := by
    rw [collapseOther, String.toList_ofList, count_join_changeOther hc, join_split]
  have hmem {c : Char} (hc : isBlank c = false) (hin : c ∈ value.toList) :
      c ∈ (collapseOther value).toList := by
    rw [← List.count_pos_iff, hcount hc]
    exact List.count_pos_iff.mpr hin
  rcases h with hcomma | hquote
  · exact Or.inl (hmem isBlank_comma hcomma)
  · exact Or.inr (hmem isBlank_doubleQuote hquote)

/-- **The signed form of a quoted value** is the quoted form of the value whose other pieces were collapsed. -/
theorem normalize_quote {value : String} (h : Marked value) :
    normalize (quote value) = quote (collapseOther value) := by
  have hpieces : ∀ piece ∈ split doubleQuote value.toList, doubleQuote ∉ piece :=
    fun piece hpiece => not_mem_of_mem_split hpiece
  have htrimmed : Trimmed (quote value).toList := by
    rw [toList_quote h]
    constructor
    · intro c hc
      rw [← Option.some.inj hc, isBlank_doubleQuote]
    · intro c hc
      rw [← List.cons_append, List.getLast?_concat] at hc
      rw [← Option.some.inj hc, isBlank_doubleQuote]
  refine String.toList_injective ?_
  rw [normalize, String.toList_ofList, htrimmed.trim_eq, toList_quote h,
    toList_quote (marked_collapseOther h), collapseOther, String.toList_ofList,
    ← collapse_quoted_join (split_ne_nil doubleQuote value.toList) hpieces, join_split]

/-- A value is not changed IF AND ONLY IF none of its other pieces is. -/
theorem collapseOther_eq_iff (value : String) :
    collapseOther value = value
      ↔ ∀ piece ∈ everyOther (split doubleQuote value.toList), collapse piece = piece := by
  have hne := split_ne_nil doubleQuote value.toList
  have hpieces : ∀ piece ∈ split doubleQuote value.toList, doubleQuote ∉ piece :=
    fun piece hpiece => not_mem_of_mem_split hpiece
  have hchanged : ∀ piece ∈ changeOther collapse (split doubleQuote value.toList), doubleQuote ∉ piece :=
    forall_mem_changeOther (P := fun piece => doubleQuote ∉ piece)
      (fun piece => not_mem_collapse isBlank_doubleQuote) hpieces
  rw [← changeOther_eq_iff, ← join_inj (changeOther_ne_nil collapse hne) hne hchanged hpieces,
    join_split, collapseOther, ← String.toList_inj, String.toList_ofList]

/-- Only one value is quoted as a text is. -/
theorem quote_injective {v w : String} (hv : Marked v) (hw : Marked w) (h : quote v = quote w) :
    v = w := by
  have hread := readQuoted_quote hv []
  rw [h, readQuoted_quote hw []] at hread
  obtain ⟨hsame, -⟩ := Prod.mk.inj (Option.some.inj hread)
  exact String.toList_injective hsame.symm

/-! ## Single spaces -/

/-- No blank is dropped IF AND ONLY IF the text does not start with one. -/
theorem dropBlanks_eq_iff {cs : List Char} :
    dropBlanks cs = cs ↔ ∀ c ∈ cs.head?, isBlank c = false := by
  constructor
  · intro hsame c hc
    rw [← hsame] at hc
    exact head?_dropBlanks hc
  · exact dropBlanks_of_head

/-- A text without blanks but single spaces. -/
def Settled : List Char → Prop
  | [] => True
  | c :: rest =>
    (isBlank c = true → c = ' ' ∧ ∀ d ∈ rest.head?, isBlank d = false) ∧ Settled rest

instance decideSettled : DecidablePred Settled
  | [] => inferInstanceAs (Decidable True)
  | c :: rest =>
    have := decideSettled rest
    have : Decidable (∀ d ∈ rest.head?, isBlank d = false) := decidable_of_iff _ dropBlanks_eq_iff
    inferInstanceAs (Decidable
      ((isBlank c = true → c = ' ' ∧ ∀ d ∈ rest.head?, isBlank d = false) ∧ Settled rest))

theorem length_collapse_le (cs : List Char) : (collapse cs).length ≤ cs.length := by
  fun_induction collapse cs with
  | case1 => exact Nat.le_refl _
  | case2 rest inside after hcut ih =>
    rw [append_of_cut hcut]
    simp only [List.length_cons, List.length_append]
    omega
  | case3 rest inside hcut ih => exact Nat.succ_le_succ ih
  | case4 c rest hquote hc ih =>
    exact Nat.succ_le_succ (Nat.le_trans ih (List.dropWhile_sublist isBlank).length_le)
  | case5 c rest hquote hc ih => exact Nat.succ_le_succ ih

/-- **A text without quotes is collapsed** if and only if all its blanks are single spaces. -/
theorem collapse_eq_iff {cs : List Char} (h : doubleQuote ∉ cs) : collapse cs = cs ↔ Settled cs := by
  induction cs with
  | nil => exact iff_of_true collapse_nil trivial
  | cons c rest ih =>
    rw [List.mem_cons, not_or] at h
    obtain ⟨hquote, hrest⟩ := h
    cases hc : isBlank c with
    | false =>
      rw [collapse_plain hc (Ne.symm hquote), List.cons.injEq, ih hrest, Settled, hc]
      simp
    | true =>
      rw [collapse_blank hc, List.cons.injEq, Settled, ← ih hrest]
      constructor
      · rintro ⟨hspace, hkept⟩
        -- were a blank dropped, the text would have become shorter
        have hlength : rest.length ≤ (dropBlanks rest).length :=
          calc rest.length = (collapse (dropBlanks rest)).length := by rw [hkept]
            _ ≤ (dropBlanks rest).length := length_collapse_le _
        have hsame : dropBlanks rest = rest :=
          (List.dropWhile_sublist isBlank).eq_of_length_le hlength
        rw [hsame] at hkept
        exact ⟨fun _ => ⟨hspace.symm, dropBlanks_eq_iff.mp hsame⟩, hkept⟩
      · rintro ⟨hspace, hkept⟩
        obtain ⟨hsingle, hhead⟩ := hspace hc
        rw [dropBlanks_eq_iff.mpr hhead]
        exact ⟨hsingle.symm, hkept⟩

/-! ## What is signed of a quoted value -/

/-- **Quoted values as they are signed.**  A value with a comma or a double quote is written as one quoted
string, which is read as the value.  The signed form of that is one quoted string again, of the value whose
other pieces were collapsed.  It is what was written if and only if every other piece of the value between
its quotes has single spaces only. -/
theorem normalize_quote_eq_iff {value : String} (h : Marked value) :
    readQuoted (quote value).toList = some (value.toList, [])
      ∧ normalize (quote value) = quote (collapseOther value)
      ∧ readQuoted (normalize (quote value)).toList = some ((collapseOther value).toList, [])
      ∧ (normalize (quote value) = quote value
          ↔ ∀ piece ∈ everyOther (split doubleQuote value.toList), Settled piece) := by
  have hmarked := marked_collapseOther h
  have hread {v : String} (hv : Marked v) : readQuoted (quote v).toList = some (v.toList, []) := by
    have hbehind := readQuoted_quote hv []
    rwa [List.append_nil] at hbehind
  refine ⟨hread h, normalize_quote h, ?_, ?_⟩
  · rw [normalize_quote h]
    exact hread hmarked
  · have hsame : normalize (quote value) = quote value ↔ collapseOther value = value := by
      rw [normalize_quote h]
      exact ⟨quote_injective hmarked h, congrArg quote⟩
    rw [hsame, collapseOther_eq_iff]
    have hpiece : ∀ piece ∈ everyOther (split doubleQuote value.toList),
        (collapse piece = piece ↔ Settled piece) := fun piece hin =>
      collapse_eq_iff (not_mem_of_mem_split (mem_of_mem_everyOther hin))
    exact forall₂_congr hpiece

/-- Runs of blanks before the first quote and behind the second, a backslash, and single spaces between. -/
theorem normalize_quote_eq_between_quotes :
    let value := "a,  \\\"b c d\"\t \te"
    Marked value ∧ quote value = "\"a,  \\\\\\\"b c d\\\"\t \te\""
      ∧ normalize (quote value) = quote value := by
  intro value
  have hmarked : Marked value := by decide
  obtain ⟨-, -, -, hiff⟩ := normalize_quote_eq_iff hmarked
  have hpieces : everyOther (split doubleQuote value.toList) = ["b c d".toList] := by decide
  refine ⟨hmarked, by decide, hiff.mpr ?_⟩
  intro piece hpiece
  rw [hpieces, List.mem_singleton] at hpiece
  subst hpiece
  decide

/-- BEHIND A QUOTE OF ITS OWN a value is signed with one space for two. -/
theorem normalize_quote_ne_behind_quote :
    let value := "a\"  b"
    Marked value ∧ quote value = "\"a\\\"  b\"" ∧ normalize (quote value) = "\"a\\\" b\""
      ∧ normalize (quote value) ≠ quote value := by
  intro value
  exact ⟨by decide, by decide, by decide +kernel, by decide +kernel⟩

end SigV4.Header
