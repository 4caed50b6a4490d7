/-
  The text of a canonical request IS READ BACK, so no two requests share one.

  1. **Its lines** — method, path and query are one line each, then comes one line for each field, an
     empty line, and the names and the hash (`split_text`).  Nothing but a line end ends a line, so an
     empty part is an empty line and stays where it is.
  2. **The block** — the line of a field has a colon, so IT IS NEVER EMPTY: the first empty line behind
     the query ends the block, whatever the fields are, and also where there are none.
  3. **A field** — its name has no colon, so the first colon ends the name (`readField_line`).

  `read` is written without a look at who writes: it cuts the text at its line ends and the block at
  its first empty line.  The crux is that it gives back any request that HTTP allows (`read_text`), and
  one text is read in one way only.
-/
import SigV4.Canonical
import SigV4.Proofs.Header.Line
import SigV4.Proofs.Text.Pieces

namespace SigV4

open Text

namespace CanonicalRequest

/-- What HTTP requires of the parts: no line feed in any of them, and no colon in the name of a field. -/
structure Plain (r : CanonicalRequest) : Prop where
  method : '\n' ∉ r.method.toList
  path : '\n' ∉ r.path.toList
  query : '\n' ∉ r.query.toList
  name : ∀ field ∈ r.fields, '\n' ∉ field.1.toList ∧ ':' ∉ field.1.toList
  value : ∀ field ∈ r.fields, '\n' ∉ field.2.toList
  payloadHash : '\n' ∉ r.payloadHash.toList

/-- The field of a line, which is cut at its first colon. -/
def readField (line : List Char) : Option (String × String) :=
  let (name, value) := cut ':' line
  value.map fun value => (String.ofList name, String.ofList value)

/-- The canonical request of a text.  The names behind the block are not needed. -/
def read (text : String) : Option CanonicalRequest :=
  match split '\n' text.toList with
  | method :: path :: query :: lines =>
    match lines.dropWhile (· ≠ []) with
    | [_, _, payloadHash] =>
      ((lines.takeWhile (· ≠ [])).mapM readField).map fun fields =>
        { method := String.ofList method, path := String.ofList path, query := String.ofList query,
          fields := fields, payloadHash := String.ofList payloadHash }
    | _ => none
  | _ => none

/-! ## The lines -/

/-- The line of a field without its end. -/
def line (field : String × String) : List Char := field.1.toList ++ ':' :: field.2.toList

theorem line_ne_nil (field : String × String) : line field ≠ [] :=
  List.append_ne_nil_of_right_ne_nil _ (List.cons_ne_nil _ _)

theorem not_mem_line {field : String × String} (hname : '\n' ∉ field.1.toList)
    (hvalue : '\n' ∉ field.2.toList) : '\n' ∉ line field := by
  intro hmem
  rcases List.mem_append.mp hmem with hmem | hmem
  · exact hname hmem
  · rcases List.mem_cons.mp hmem with hcolon | hmem
    · exact absurd hcolon (by decide)
    · exact hvalue hmem

/-- A line without line ends is cut off in front of whatever comes behind it. -/
theorem split_line {piece : List Char} (h : '\n' ∉ piece) (rest : List Char) :
    split '\n' (piece ++ '\n' :: rest) = piece :: split '\n' rest := by
  rw [split_append, split_of_not_mem h]
  rfl

/-- The block of the fields is cut into one line for each, with anything behind it. -/
theorem split_fieldLines {fields : List (String × String)}
    (hfields : ∀ field ∈ fields, '\n' ∉ line field) (rest : List Char) :
    split '\n' (fields.flatMap (fun field => line field ++ ['\n']) ++ rest)
      = fields.map line ++ split '\n' rest := by
  induction fields with
  | nil => rfl
  | cons field fields ih =>
    have hfirst : '\n' ∉ line field := hfields field List.mem_cons_self
    have hrest := ih fun other hmem => hfields other (List.mem_cons_of_mem field hmem)
    calc split '\n' ((field :: fields).flatMap (fun field => line field ++ ['\n']) ++ rest)
        = split '\n' (line field
            ++ '\n' :: (fields.flatMap (fun field => line field ++ ['\n']) ++ rest)) := by
          simp only [List.flatMap_cons, List.append_assoc, List.cons_append, List.nil_append]
      _ = line field :: (fields.map line ++ split '\n' rest) := by
          rw [split_line hfirst, hrest]
      _ = (field :: fields).map line ++ split '\n' rest := rfl

theorem toList_fieldLines (r : CanonicalRequest) :
    r.fieldLines.toList = r.fields.flatMap fun field => line field ++ ['\n'] := by
  have hline : ∀ field, (fieldLine field).toList = line field ++ ['\n'] := by
    intro field
    show (field.1 ++ ":" ++ field.2 ++ "\n").toList = _
    simp only [String.toList_append, line, List.append_assoc]
    rfl
  rw [fieldLines, String.toList_join, List.flatMap_map]
  simp only [hline]

/-- The line of the names has no line end either. -/
theorem not_mem_signedHeaders {r : CanonicalRequest} (h : r.Plain) :
    '\n' ∉ r.signedHeaders.toList := by
  have hsemicolon : ";".toList = [';'] := rfl
  rw [signedHeaders, String.toList_intercalate, hsemicolon, intercalate_eq_join, List.map_map]
  intro hmem
  rcases mem_join hmem with hsep | ⟨piece, hpiece, hmem⟩
  · exact absurd hsep (by decide)
  · obtain ⟨field, hfield, rfl⟩ := List.mem_map.mp hpiece
    exact (h.name field hfield).1 hmem

/-- THE LINES OF THE TEXT. -/
theorem split_text {r : CanonicalRequest} (h : r.Plain) :
    split '\n' r.text.toList = r.method.toList :: r.path.toList :: r.query.toList
      :: (r.fields.map line ++ [[], r.signedHeaders.toList, r.payloadHash.toList]) := by
  have hend : "\n".toList = ['\n'] := rfl
  have hlines : ∀ field ∈ r.fields, '\n' ∉ line field := fun field hfield =>
    not_mem_line (h.name field hfield).1 (h.value field hfield)
  simp only [text, String.toList_append, hend, List.append_assoc, List.cons_append, List.nil_append]
  rw [split_line h.method, split_line h.path, split_line h.query, toList_fieldLines,
    split_fieldLines hlines, split_sep, split_line (not_mem_signedHeaders h),
    split_of_not_mem h.payloadHash]

/-! ## Reading -/

theorem readField_line {field : String × String} (h : ':' ∉ field.1.toList) :
    readField (line field) = some field := by
  unfold readField line
  rw [cut_of_not_mem h]
  simp only [Option.map_some, String.ofList_toList]

theorem mapM_readField {fields : List (String × String)}
    (h : ∀ field ∈ fields, ':' ∉ field.1.toList) :
    (fields.map line).mapM readField = some fields := by
  induction fields with
  | nil => rfl
  | cons field fields ih =>
    have hrest := ih fun other hmem => h other (List.mem_cons_of_mem field hmem)
    rw [List.map_cons, List.mapM_cons, readField_line (h field List.mem_cons_self), hrest]
    rfl

/-- The FIRST EMPTY LINE ends the block, and no field has one. -/
theorem takeWhile_block (fields : List (String × String)) (behind : List (List Char)) :
    (fields.map line ++ [] :: behind).takeWhile (· ≠ []) = fields.map line
      ∧ (fields.map line ++ [] :: behind).dropWhile (· ≠ []) = [] :: behind := by
  have hblock : ∀ l ∈ fields.map line, decide (l ≠ []) = true := by
    intro l hl
    obtain ⟨field, -, rfl⟩ := List.mem_map.mp hl
    exact decide_eq_true (line_ne_nil field)
  constructor
  · rw [List.takeWhile_append_of_pos hblock, List.takeWhile_cons_of_neg (by decide), List.append_nil]
  · rw [List.dropWhile_append_of_pos hblock, List.dropWhile_cons_of_neg (by decide)]

/-- **A text is read back** as the request that it was written for. -/
theorem read_text {r : CanonicalRequest} (h : r.Plain) : read r.text = some r := by
  obtain ⟨hblock, hbehind⟩ :=
    takeWhile_block r.fields [r.signedHeaders.toList, r.payloadHash.toList]
  have hfields := mapM_readField fun field hfield => (h.name field hfield).2
  unfold read
  rw [split_text h]
  simp only [hblock, hbehind, hfields, Option.map_some, String.ofList_toList]

/-- **TWO CANONICAL REQUESTS HAVE ONE TEXT only if they are the same request:** the same method, path,
query and payload hash, and the same row of fields. -/
theorem text_inj {r other : CanonicalRequest} (h : r.Plain) (hother : other.Plain) :
    r.text = other.text ↔ r = other := by
  constructor
  · intro htext
    have hread : some r = some other := by
      rw [← read_text h, htext, read_text hother]
    exact Option.some.inj hread
  · rintro rfl
    rfl

/-- Two requests of empty parts: one has no field, the other has a field with no name and no value. -/
theorem text_inj_empty_parts :
    let r : CanonicalRequest := ⟨"", "", "", [], ""⟩
    let other : CanonicalRequest := ⟨"", "", "", [("", "")], ""⟩
    (r.Plain ∧ other.Plain) ∧ r.text ≠ other.text := by
  intro r other
  have hr : r.Plain := ⟨by decide, by decide, by decide, by decide, by decide, by decide⟩
  have hother : other.Plain := ⟨by decide, by decide, by decide, by decide, by decide, by decide⟩
  refine ⟨⟨hr, hother⟩, ?_⟩
  intro htext
  have hsame : r = other := (text_inj hr hother).mp htext
  exact absurd hsame (by decide)

end CanonicalRequest

end SigV4
