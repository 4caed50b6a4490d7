/-
  THE LINE OF A FIELD, as it is sent, and the value of the field, as it is signed.

  1. **Two ways to one line** — what is signed are the values, each in its signed form, joined by commas
     (`toList_canonicalValue`); what is sent are the values, each quoted if need be, joined by commas
     (`toList_line`).
  2. **Quotes** — quoting a value with a comma or a quote adds quotes to the line, and the signed form
     keeps every quote.  So the two lines differ in their NUMBER OF QUOTES (`count_canonicalValue_lt`).
  3. **Seams** — without quotes the two differ only in the blanks beside a comma: they are trimmed from a
     value, but not from the middle of a line (`canonicalValue_eq_iff`).

  The crux is that the pieces of the trimmed line are, once they are trimmed, those of the values
  (`map_trim_split`): so one comparison, piece by piece, settles both directions.
-/
import SigV4.Proofs.Header.Signable
import SigV4.Proofs.Header.Value

namespace SigV4

open Text Header

/-! ## Two ways to one line -/

namespace Text

theorem intercalate_eq_join (sep : Char) (pieces : List (List Char)) :
    [sep].intercalate pieces = join sep pieces := by
  induction pieces with
  | nil => rfl
  | cons piece pieces ih =>
    cases pieces with
    | nil => simp [join]
    | cons next rest =>
      rw [join, ← ih]
      simp [List.intercalate]

end Text

/-- What is signed of a field. -/
theorem toList_canonicalValue (f : Field) :
    (canonicalValue f).toList
      = join ',' (f.values.map fun value => collapse (trim value.toList)) := by
  have hcomma : ",".toList = [','] := rfl
  rw [canonicalValue, String.toList_intercalate, hcomma, intercalate_eq_join, List.map_map]
  congr 1
  refine List.map_congr_left fun value _ => ?_
  show (Header.normalize value).toList = _
  rw [Header.normalize, String.toList_ofList]

/-- Several values stand in one line, each of them quoted if need be. -/
theorem Field.line_of_many {f : Field} (h : 2 ≤ f.values.length) (delimiter : String) :
    f.line delimiter = delimiter.intercalate (f.values.map quote) := by
  unfold Field.line
  split
  · rename_i hvalues
    rw [hvalues] at h
    exact absurd h (by decide)
  · rename_i value hvalues
    rw [hvalues] at h
    exact absurd h (by simp)
  · rfl

/-- What is sent of a field with several values. -/
theorem Field.toList_line {f : Field} (h : 2 ≤ f.values.length) :
    (f.line ",").toList = join ',' (f.values.map fun value => (quote value).toList) := by
  have hcomma : ",".toList = [','] := rfl
  rw [Field.line_of_many h, String.toList_intercalate, hcomma, intercalate_eq_join, List.map_map]
  rfl

/-! ## Quotes -/

/-- A value with a mark that has to be quoted in a line of several values. -/
def Marked (value : String) : Prop := ',' ∈ value.toList ∨ doubleQuote ∈ value.toList

instance (value : String) : Decidable (Marked value) :=
  inferInstanceAs (Decidable (_ ∨ _))

theorem quote_of_not_marked {value : String} (h : ¬Marked value) : quote value = value := if_neg h

/-- Escaping keeps the quotes that are there. -/
theorem count_escape (cs : List Char) :
    (cs.flatMap escapeChar).count doubleQuote = cs.count doubleQuote := by
  induction cs with
  | nil => rfl
  | cons c cs ih =>
    have hchar : (escapeChar c).count doubleQuote = [c].count doubleQuote := by
      unfold escapeChar
      split
      · exact List.count_cons_of_ne (by decide)
      · rfl
    rw [List.flatMap_cons, List.count_append, hchar, ih, ← List.count_append]
    rfl

/-- **Quoting a marked value adds two quotes.** -/
theorem count_quote {value : String} (h : Marked value) :
    (quote value).toList.count doubleQuote = value.toList.count doubleQuote + 2 := by
  have hquoted : quote value
      = String.ofList (doubleQuote :: value.toList.flatMap escapeChar ++ [doubleQuote]) := if_pos h
  rw [hquoted, String.toList_ofList, List.cons_append, List.count_cons_self,
    List.count_append, count_escape]
  rfl

/-- The signed form of a value has the quotes of the value, and its quoted form has no fewer. -/
theorem count_collapse_trim_le (value : String) :
    (collapse (trim value.toList)).count doubleQuote = value.toList.count doubleQuote
      ∧ value.toList.count doubleQuote ≤ (quote value).toList.count doubleQuote := by
  refine ⟨by rw [count_collapse isBlank_doubleQuote, count_trim isBlank_doubleQuote], ?_⟩
  by_cases h : Marked value
  · rw [count_quote h]
    omega
  · exact Nat.le_of_eq (by rw [quote_of_not_marked h])

/-- A row of quoted values has NO FEWER QUOTES than the row of their signed forms, and has more where one of
them is marked. -/
theorem count_join_quote (values : List String) :
    let signed := join ',' (values.map fun value => collapse (trim value.toList))
    let sent := join ',' (values.map fun value => (quote value).toList)
    signed.count doubleQuote ≤ sent.count doubleQuote
      ∧ ((∃ value ∈ values, Marked value) → signed.count doubleQuote < sent.count doubleQuote) := by
  have hcomma : ',' ≠ doubleQuote := by decide
  induction values with
  | nil => exact ⟨Nat.le_refl _, fun h => absurd h (by simp)⟩
  | cons value values ih =>
    obtain ⟨hle, hlt⟩ := ih
    obtain ⟨hkept, hquote⟩ := count_collapse_trim_le value
    simp only [List.map_cons, count_join_cons hcomma, hkept]
    refine ⟨by omega, ?_⟩
    rintro ⟨other, hother, hmark⟩
    rcases List.mem_cons.mp hother with rfl | hother
    · rw [count_quote hmark]
      omega
    · have := hlt ⟨other, hother, hmark⟩
      omega

/-- Where a value is marked, the line has MORE QUOTES than what is signed. -/
theorem count_canonicalValue_lt {f : Field} (hmany : 2 ≤ f.values.length)
    (hmarked : ∃ value ∈ f.values, Marked value) :
    (canonicalValue f).toList.count doubleQuote
      < (Header.normalize (f.line ",")).toList.count doubleQuote := by
  rw [count_normalize isBlank_doubleQuote, toList_canonicalValue, Field.toList_line hmany]
  exact (count_join_quote f.values).2 hmarked

/-! ## Seams -/

/-- Nothing in the signed form of a value is a comma or a quote unless it was there before. -/
theorem not_mem_collapse_trim {c : Char} (hc : isBlank c = false) {cs : List Char} (h : c ∉ cs) :
    c ∉ collapse (trim cs) := by
  refine not_mem_collapse hc ?_
  rwa [← List.count_eq_zero, count_trim hc, List.count_eq_zero]

/-- A row of values without marks is collapsed like its values IF AND ONLY IF trimming the row trims each of
its pieces. -/
theorem join_collapse_eq_iff {values : List (List Char)} (hne : values ≠ [])
    (hcomma : ∀ value ∈ values, ',' ∉ value) (hquote : ∀ value ∈ values, doubleQuote ∉ value) :
    join ',' (values.map fun value => collapse (trim value)) = collapse (trim (join ',' values))
      ↔ ∀ piece ∈ split ',' (trim (join ',' values)), Trimmed piece := by
  let row := join ',' values
  let pieces := split ',' (trim row)
  have hrow : doubleQuote ∉ trim row := by
    rw [← List.count_eq_zero, count_trim isBlank_doubleQuote, List.count_eq_zero]
    intro hmem
    rcases mem_join hmem with h | ⟨value, hvalue, h⟩
    · exact absurd h (by decide)
    · exact hquote value hvalue h
  have hpieces : ∀ piece ∈ pieces, doubleQuote ∉ piece := by
    intro piece hpiece hmem
    apply hrow
    rw [← join_split ',' (trim row)]
    exact mem_join_of_mem hpiece hmem
  -- once they are trimmed, the pieces of the trimmed row are the values
  have hsame : values.map (fun value => collapse (trim value))
      = pieces.map fun piece => collapse (trim piece) := by
    have htrim : pieces.map trim = values.map trim := by
      rw [map_trim_split isBlank_comma, split_join hne hcomma]
    have hmap := congrArg (List.map collapse) htrim
    rw [List.map_map, List.map_map] at hmap
    exact hmap.symm
  have hcollapse : collapse (trim row) = join ',' (pieces.map collapse) := by
    rw [← collapse_join hpieces, join_split]
  have hcommas (form : List Char → List Char) (hform : ∀ piece, ',' ∉ piece → ',' ∉ form piece) :
      ∀ piece ∈ pieces.map form, ',' ∉ piece := by
    intro written hwritten
    obtain ⟨piece, hpiece, rfl⟩ := List.mem_map.mp hwritten
    exact hform piece (not_mem_of_mem_split hpiece)
  have hpieces_ne : pieces ≠ [] := split_ne_nil ',' (trim row)
  rw [hsame, hcollapse, join_inj (by simpa using hpieces_ne) (by simpa using hpieces_ne)
    (hcommas _ fun piece => not_mem_collapse_trim isBlank_comma)
    (hcommas _ fun piece h => by rwa [← List.count_eq_zero, count_collapse isBlank_comma,
      List.count_eq_zero])]
  constructor
  · intro h piece hpiece
    rw [← collapse_trim_eq_iff (hpieces piece hpiece)]
    exact (List.map_inj_left.mp h) piece hpiece
  · intro h
    refine List.map_congr_left fun piece hpiece => ?_
    exact (collapse_trim_eq_iff (hpieces piece hpiece)).mpr (h piece hpiece)

/-- **A field whose line has no seams:** no value is marked, and beside no comma of the trimmed line there
is a blank. -/
structure Field.Seamless (f : Field) : Prop where
  unmarked : ∀ value ∈ f.values, ¬Marked value
  flush : ∀ piece ∈ split ',' (trim (f.line ",").toList), Trimmed piece

/-- What is signed of several values is the signed form of their line IF AND ONLY IF the line has no
seams. -/
theorem canonicalValue_eq_iff {f : Field} (hmany : 2 ≤ f.values.length) :
    canonicalValue f = Header.normalize (f.line ",") ↔ f.Seamless := by
  by_cases hmarked : ∃ value ∈ f.values, Marked value
  · refine iff_of_false (fun h => ?_) fun h => ?_
    · have hlt := count_canonicalValue_lt hmany hmarked
      rw [h] at hlt
      exact absurd hlt (Nat.lt_irrefl _)
    · obtain ⟨value, hvalue, hmark⟩ := hmarked
      exact h.unmarked value hvalue hmark
  have hunmarked : ∀ value ∈ f.values, ¬Marked value := fun value hvalue hmark =>
    hmarked ⟨value, hvalue, hmark⟩
  let values := f.values.map String.toList
  have hvalues : values ≠ [] := by
    intro hnil
    rw [List.map_eq_nil_iff.mp hnil] at hmany
    exact absurd hmany (by decide)
  have hline : (f.line ",").toList = join ',' values := by
    rw [Field.toList_line hmany]
    congr 1
    exact List.map_congr_left fun value hvalue => by rw [quote_of_not_marked (hunmarked value hvalue)]
  have hplain : ∀ cs ∈ values, ',' ∉ cs ∧ doubleQuote ∉ cs := by
    intro cs hcs
    obtain ⟨value, hvalue, rfl⟩ := List.mem_map.mp hcs
    exact not_or.mp (hunmarked value hvalue)
  have hsigned : canonicalValue f = Header.normalize (f.line ",")
      ↔ join ',' (values.map fun value => collapse (trim value)) = collapse (trim (join ',' values)) := by
    rw [← String.toList_inj, toList_canonicalValue, Header.normalize, String.toList_ofList, hline,
      List.map_map]
    rfl
  rw [hsigned, join_collapse_eq_iff hvalues (fun cs hcs => (hplain cs hcs).1)
    fun cs hcs => (hplain cs hcs).2, ← hline]
  exact ⟨fun h => ⟨hunmarked, h⟩, fun h => h.flush⟩

/-- A line of one value, or of none, has no seams to show. -/
theorem canonicalValue_eq_of_few {f : Field} (h : f.values.length ≤ 1) :
    canonicalValue f = Header.normalize (f.line ",") := by
  obtain ⟨name, values⟩ := f
  match values, h with
  | [], _ =>
    have hempty : Header.normalize "" = "" := by
      rw [Header.normalize, show trim "".toList = [] from rfl, collapse_nil]
    exact hempty.symm
  | [value], _ => exact String.intercalate_singleton

/-! ## What is signed and what is sent -/

/-- **The signed value of a field and the line that is sent of it.**  A field that may be signed is signed
with one value: its values, each in its signed form, joined by commas.  Of at most one value that is the
signed form of the line that is sent; of several it is so if and only if the line has no seams. -/
theorem signedFields_sent {fields : Fields} {f : Field} (hf : f ∈ fields.toList)
    (hs : f.key ∉ excludedKeys) (a : Address) :
    ∃ value, (∀ other, (f.key, other) ∈ signedFields fields a ↔ other = value)
      ∧ value = ",".intercalate (f.values.map Header.normalize)
      ∧ (value = Header.normalize (f.line ",") ↔ f.values.length ≤ 1 ∨ f.Seamless) := by
  refine ⟨canonicalValue f, mem_signedFields_iff_of_mem hf hs a, rfl, ?_⟩
  by_cases hfew : f.values.length ≤ 1
  · exact iff_of_true (canonicalValue_eq_of_few hfew) (.inl hfew)
  · rw [or_iff_right hfew]
    exact canonicalValue_eq_iff (by omega)

/-- Blanks at the outer ends of the line, a run of them inside a value, and a backslash. -/
theorem signedFields_sent_outer_blanks :
    let f : Field := ⟨"X-Amz-Meta-Tags", ["  a  b\\", "c "]⟩
    let fields : Fields := .ofList [⟨"Accept", ["*"]⟩, f]
    (f ∈ fields.toList ∧ f.key ∉ excludedKeys)
      ∧ ∃ value, ("x-amz-meta-tags", value) ∈ signedFields fields { host := "example.com" }
        ∧ value = Header.normalize (f.line ",") := by
  intro f fields
  have hf : f ∈ fields.toList := by decide
  have hkey : f.key = "x-amz-meta-tags" := by decide
  have hs : f.key ∉ excludedKeys := by decide
  obtain ⟨value, hsigned, -, hsame⟩ := signedFields_sent hf hs { host := "example.com" }
  have hseamless : f.Seamless := ⟨by decide, by decide⟩
  rw [← hkey]
  exact ⟨⟨hf, hs⟩, value, (hsigned value).mpr rfl, hsame.mpr (.inr hseamless)⟩

/-- Values with blanks where they meet are SIGNED WITHOUT THEM AND SENT WITH THEM; values with a comma are
signed as they are and sent in quotes. -/
theorem canonicalValue_not_line :
    let blanks : Field := ⟨"X-Amz-Meta-Tags", ["a ", "  b   c"]⟩
    let comma : Field := ⟨"X-Amz-Meta-Tags", ["a,b", "c"]⟩
    (canonicalValue blanks = "a,b c" ∧ Header.normalize (blanks.line ",") = "a , b c")
      ∧ canonicalValue comma = "a,b,c" ∧ Header.normalize (comma.line ",") = "\"a,b\",c" := by
  intro blanks comma
  exact ⟨by decide +kernel, by decide +kernel⟩

end SigV4
