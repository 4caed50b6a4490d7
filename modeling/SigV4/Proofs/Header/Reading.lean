/-
  READING the line of a field with several values.

  1. **Tokens** — `readToken` takes one token off a line: a quoted string where it starts with a double quote,
     and otherwise what stands before the next comma.  `readTokens` expects a comma and a space between any two.
  2. **Values** — a value that is written into a line of several is one token, whatever stands behind it, as long
     as that starts with a comma or is nothing (`readToken_quote`).  So the tokens of the line are the values.
  3. **One line, one row of values** — `readValues_line`: no two fields with several values have the same line.
     With ONE value it is otherwise, for that is sent as it is, and may spell a line of several.

  The crux is that a value needs no quotes only if it has none itself: what is sent unquoted never starts like a
  quoted string, and never holds a comma, so its token ends where the value does.
-/
import SigV4.Proofs.Header.Quoting

namespace SigV4

open Text

namespace Header

/-! ## Tokens -/

/-- **Takes one token off a line:** a quoted string, or what stands before the next comma. -/
def readToken (cs : List Char) : Option (List Char × List Char) :=
  if cs.head? = some doubleQuote then readQuoted cs
  else some (cs.takeWhile (· ≠ ','), cs.dropWhile (· ≠ ','))

/-- The quote that closes is taken in any case, so LESS is left behind it. -/
theorem length_readInside {escaped : Bool} {cs inside behind : List Char}
    (h : readInside escaped cs = some (inside, behind)) : behind.length < cs.length := by
  fun_induction readInside escaped cs generalizing inside with
  | case1 => exact nomatch h
  | case2 c rest ih =>
    obtain ⟨⟨more, after⟩, hrest, hpair⟩ := Option.map_eq_some_iff.mp h
    obtain ⟨-, rfl⟩ := Prod.mk.inj hpair
    exact Nat.lt_succ_of_lt (ih hrest)
  | case3 rest =>
    obtain ⟨-, rfl⟩ := Prod.mk.inj (Option.some.inj h)
    exact Nat.lt_succ_self rest.length
  | case4 rest _ ih => exact Nat.lt_succ_of_lt (ih h)
  | case5 c rest _ _ ih =>
    obtain ⟨⟨more, after⟩, hrest, hpair⟩ := Option.map_eq_some_iff.mp h
    obtain ⟨-, rfl⟩ := Prod.mk.inj hpair
    exact Nat.lt_succ_of_lt (ih hrest)

theorem length_readQuoted {cs inside behind : List Char} (h : readQuoted cs = some (inside, behind)) :
    behind.length < cs.length := by
  cases cs with
  | nil => cases h
  | cons c rest =>
    rw [readQuoted] at h
    by_cases hc : c = doubleQuote
    · rw [if_pos hc] at h
      exact Nat.lt_succ_of_lt (length_readInside h)
    · rw [if_neg hc] at h
      cases h

theorem length_readToken {cs token behind : List Char} (h : readToken cs = some (token, behind)) :
    behind.length ≤ cs.length := by
  unfold readToken at h
  split at h
  · exact Nat.le_of_lt (length_readQuoted h)
  · obtain ⟨-, rfl⟩ := Prod.mk.inj (Option.some.inj h)
    exact (List.dropWhile_sublist _).length_le

/-- **Reads the tokens of a line,** with a comma and a space between any two. -/
def readTokens (cs : List Char) : Option (List (List Char)) :=
  match _ : readToken cs with
  | some (token, []) => some [token]
  | some (token, ',' :: ' ' :: behind) => (readTokens behind).map (token :: ·)
  | _ => none
termination_by cs.length
decreasing_by
  rename_i h
  have := length_readToken h
  simp only [List.length_cons] at this
  omega

/-- **Reads the values of a line.** -/
def readValues (line : String) : Option (List String) :=
  (readTokens line.toList).map (·.map String.ofList)

/-! ## Values -/

/-- What is sent unquoted NEVER STARTS LIKE A QUOTED STRING, not even an empty value. -/
theorem head?_unquoted {value behind : List Char} (hquote : doubleQuote ∉ value)
    (h : ∀ c ∈ behind.head?, c = ',') : (value ++ behind).head? ≠ some doubleQuote := by
  intro hfirst
  cases value with
  | nil => exact absurd (h doubleQuote hfirst) (by decide)
  | cons c rest =>
    obtain rfl : c = doubleQuote := Option.some.inj hfirst
    exact hquote List.mem_cons_self

/-- What is sent unquoted is taken UP TO THE COMMA behind it. -/
theorem readToken_unquoted {value behind : List Char} (hcomma : ',' ∉ value) (hquote : doubleQuote ∉ value)
    (h : ∀ c ∈ behind.head?, c = ',') : readToken (value ++ behind) = some (value, behind) := by
  have hplain : ∀ c ∈ value, decide (c ≠ ',') = true := by
    intro c hc
    apply decide_eq_true
    rintro rfl
    exact hcomma hc
  have hend : behind.takeWhile (· ≠ ',') = [] ∧ behind.dropWhile (· ≠ ',') = behind := by
    cases behind with
    | nil => exact ⟨rfl, rfl⟩
    | cons c rest =>
      obtain rfl : c = ',' := h c rfl
      exact ⟨rfl, rfl⟩
  rw [readToken, if_neg (head?_unquoted hquote h), List.takeWhile_append_of_pos hplain,
    List.dropWhile_append_of_pos hplain, hend.1, hend.2, List.append_nil]

/-- **A VALUE IS ONE TOKEN** of a line, behind which the line ends or a comma stands. -/
theorem readToken_quote (value : String) (behind : List Char) (h : ∀ c ∈ behind.head?, c = ',') :
    readToken ((quote value).toList ++ behind) = some (value.toList, behind) := by
  by_cases hmarked : Marked value
  · have hhead : ((quote value).toList ++ behind).head? = some doubleQuote := by
      rw [toList_quote hmarked]
      rfl
    rw [readToken, if_pos hhead, readQuoted_quote hmarked]
  · obtain ⟨hcomma, hquote⟩ := not_or.mp hmarked
    rw [quote_of_not_marked hmarked]
    exact readToken_unquoted hcomma hquote h

/-- **The tokens of a line are its values,** of which there is one at least. -/
theorem readTokens_intercalate {values : List String} (h : values ≠ []) :
    readTokens ([',', ' '].intercalate (values.map fun value => (quote value).toList))
      = some (values.map String.toList) := by
  induction values with
  | nil => exact absurd rfl h
  | cons value values ih =>
    cases values with
    | nil =>
      have hlast := readToken_quote value [] fun c hc => nomatch hc
      rw [List.append_nil] at hlast
      rw [List.map_singleton, List.intercalate_singleton, readTokens, hlast]
      rfl
    | cons next rest =>
      have hrest := ih (List.cons_ne_nil next rest)
      rw [List.map_cons] at hrest
      rw [List.map_cons, List.map_cons, List.intercalate_cons_cons, List.append_assoc]
      generalize [',', ' '].intercalate _ = behind at hrest ⊢
      have hfirst := readToken_quote value (',' :: ' ' :: behind) fun c hc => (Option.some.inj hc).symm
      show readTokens ((quote value).toList ++ ',' :: ' ' :: behind) = _
      rw [readTokens, hfirst]
      show (readTokens behind).map _ = _
      rw [hrest]
      rfl

end Header

namespace Field

open Header

/-- The values of a line of several are READ AS THEY ARE. -/
theorem readValues_sent {f : Field} (h : 2 ≤ f.values.length) :
    readValues (f.line sentDelimiter) = some f.values := by
  have hne : f.values ≠ [] := by
    intro hnil
    rw [hnil] at h
    exact absurd h (by decide)
  have hdelimiter : sentDelimiter.toList = [',', ' '] := rfl
  rw [readValues, line_of_many h, String.toList_intercalate, hdelimiter, List.map_map]
  show (readTokens ([',', ' '].intercalate (f.values.map fun value => (quote value).toList))).map _ = _
  rw [readTokens_intercalate hne, Option.map_some, List.map_map]
  congr 1
  conv_rhs => rw [← List.map_id f.values]
  exact List.map_congr_left fun value _ => String.ofList_toList

/-! ## One line, one row of values -/

/-- The empty line is one empty value. -/
theorem readValues_empty : readValues "" = some [""] := by
  rw [readValues, show "".toList = [] from rfl, readTokens]
  rfl

/-- A line of at most one value is a line of several values IF AND ONLY IF that value spells it. -/
theorem line_eq_iff_of_few {f g : Field} (hf : 2 ≤ f.values.length) (hg : g.values.length < 2) :
    g.line sentDelimiter = f.line sentDelimiter ↔ g.values = [f.line sentDelimiter] := by
  obtain ⟨name, values⟩ := g
  match values, hg with
  | [], _ =>
    refine iff_of_false ?_ (List.cons_ne_nil _ _).symm
    intro hempty
    have hread := readValues_sent hf
    rw [← hempty] at hread
    have hvalues : [""] = f.values := Option.some.inj (readValues_empty.symm.trans hread)
    rw [← hvalues] at hf
    exact absurd hf (by decide)
  | [value], _ =>
    show value = f.line sentDelimiter ↔ [value] = [f.line sentDelimiter]
    rw [List.cons.injEq, eq_self, and_true]

/-- **A line of several values DETERMINES THEM.**  A reader that knows quoted strings, and expects a comma and a
space between any two tokens, finds the values; so no other row of several values has that line.  Of the
fields with fewer values only one has it: the one whose single value is the line. -/
theorem readValues_line {f : Field} (hf : 2 ≤ f.values.length) :
    readValues (f.line sentDelimiter) = some f.values
      ∧ (∀ g : Field, 2 ≤ g.values.length →
          g.line sentDelimiter = f.line sentDelimiter → g.values = f.values)
      ∧ ∀ g : Field, g.values.length < 2 →
          (g.line sentDelimiter = f.line sentDelimiter ↔ g.values = [f.line sentDelimiter]) := by
  have hread := readValues_sent hf
  refine ⟨hread, ?_, fun g hg => line_eq_iff_of_few hf hg⟩
  intro g hg hline
  have hother := readValues_sent hg
  rw [hline] at hother
  exact Option.some.inj (hother.symm.trans hread)

/-- Commas, quotes and backslashes in some values, nothing in another, and a backslash in one that needs no
quotes.  The same text with its commas elsewhere has another line, and ONE value may spell the line. -/
theorem readValues_line_quoted :
    let f : Field := ⟨"X-Amz-Meta-Tags", ["foo,bar\\", "", "b\\", "say \"x\", "]⟩
    let other : Field := ⟨"X-Amz-Meta-Tags", ["foo", "bar\\", "", "b\\", "say \"x\", "]⟩
    let single : Field := ⟨"X-Amz-Meta-Tags", [f.line sentDelimiter]⟩
    (2 ≤ f.values.length ∧ f.line sentDelimiter = "\"foo,bar\\\\\", , b\\, \"say \\\"x\\\", \"")
      ∧ readValues (f.line sentDelimiter) = some f.values
      ∧ (2 ≤ other.values.length ∧ other.line sentDelimiter ≠ f.line sentDelimiter)
      ∧ (single.values.length < 2 ∧ single.line sentDelimiter = f.line sentDelimiter) := by
  intro f other single
  have hf : 2 ≤ f.values.length := by decide
  have hother : 2 ≤ other.values.length := by decide
  have hsingle : single.values.length < 2 := by decide
  obtain ⟨hread, hmany, hfew⟩ := readValues_line hf
  refine ⟨⟨hf, by decide⟩, hread, ⟨hother, ?_⟩, hsingle, (hfew single hsingle).mpr rfl⟩
  intro hline
  exact absurd (hmany other hother hline) (by decide)

end Field

end SigV4
