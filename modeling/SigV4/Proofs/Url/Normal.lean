/-
  NORMAL PATHS: which canonical paths have no dot segments, and are not changed when they are made
  canonical again.

  1. **Writing** — both ways to encode a path write it segment by segment (`canonicalPath_eq`): each
     segment as the bytes that it stands for, its escapes read in the one case and not in the other.
  2. **What writing keeps** — a segment is written as nothing only if it is empty, so slashes stay single;
     and it is written as a dot segment exactly if its bytes are those of one (`isDots_writeSegment`).
  3. **Normal paths** — `canonicalPath_normal`.  Encoded twice a canonical path is always free of dot
     segments.  Encoded once it is so if and only if no segment that is left `SpellsDots`, in escapes; and
     exactly those paths are stable.

  The crux is the order: dot segments are removed BEFORE the escapes of unreserved characters are read, and
  the dot is unreserved.  So `%2E` passes as a name, and comes out as a dot segment.
-/
import SigV4.Proofs.Url.Segments
import SigV4.Proofs.Url.Spelling

namespace SigV4.Path

open Text

/-! ## Writing -/

/-- The characters of a path; none, if there is no path. -/
def charsOf (path : Option String) : List Char := (path.map String.toList).getD []

/-- The path that is encoded: not empty, and without dot segments and repeated slashes if asked. -/
def cleanPath (path : List Char) (normalize : Bool) : List Char :=
  if normalize then orRoot (removeDotSegments (orRoot path) true) else orRoot path

/-- The bytes that a segment stands for.  Where it is encoded twice, its escapes are not read. -/
def segmentBytes (twice : Bool) (segment : List Char) : Bytes :=
  if twice then Utf8.encode segment else Percent.toBytes segment

/-- A segment as it is written. -/
def writeSegment (twice : Bool) (segment : List Char) : List Char :=
  Percent.encode (fun _ => false) (segmentBytes twice segment)

/-- A path as it is written, segment by segment. -/
def writePath (twice : Bool) (path : List Char) : List Char :=
  join '/' ((split '/' path).map (writeSegment twice))

/-- A leading slash is written as it is, before what the rest is written as. -/
theorem writePath_slash (twice : Bool) (path : List Char) :
    writePath twice ('/' :: path) = '/' :: writePath twice path := by
  have hnil : writeSegment twice [] = [] := by
    cases twice with
    | true => rfl
    | false => rfl
  have hne : (split '/' path).map (writeSegment twice) ≠ [] := by simpa using split_ne_nil '/' path
  rw [writePath, split_sep, List.map_cons, hnil, join_cons '/' [] hne]
  rfl

theorem encodePath_eq (path : List Char) : encodePath path = writePath false path := by
  rw [encodePath, writePath, List.map_congr_left fun segment _ => encodeSegment_eq segment]
  rfl

/-- Of all characters only the slash itself is not escaped where slashes are kept. -/
theorem encode_char_of_ne {c : Char} (h : c ≠ '/') :
    Percent.encode (· == '/') (String.utf8EncodeChar c)
      = Percent.encode (fun _ => false) (String.utf8EncodeChar c) := by
  refine Percent.encode_congr fun b hb => ?_
  have hslash : (Char.ofNat b.toNat == '/') = false := by
    rw [beq_eq_false_iff_ne]
    intro he
    rcases Utf8.mem_encodeChar hb with hsame | habove
    · rw [hsame, Char.ofNat_toNat] at he
      exact h he
    · exact Percent.of_not_ascii (P := fun c => c ≠ '/') (by decide) habove he
  rw [Percent.encodeByte, Percent.encodeByte, hslash]

theorem encodeAgain_eq (path : List Char) : encodeAgain path = writePath true path := by
  induction path with
  | nil => rfl
  | cons c cs ih =>
    have hcons : encodeAgain (c :: cs)
        = Percent.encode (· == '/') (String.utf8EncodeChar c) ++ encodeAgain cs := by
      rw [encodeAgain, Utf8.encode_cons, Percent.encode_append]
      rfl
    rw [hcons, ih]
    by_cases hc : c = '/'
    · subst hc
      rw [writePath_slash]
      rfl
    · obtain ⟨piece, pieces, hcs, hsplit⟩ := split_cons_of_ne hc cs
      have hpiece : writeSegment true (c :: piece)
          = Percent.encode (fun _ => false) (String.utf8EncodeChar c) ++ writeSegment true piece := by
        show Percent.encode _ (Utf8.encode (c :: piece)) = _
        rw [Utf8.encode_cons, Percent.encode_append]
        rfl
      rw [writePath, writePath, hcs, hsplit, List.map_cons, List.map_cons, hpiece, encode_char_of_ne hc]
      cases pieces with
      | nil => rfl
      | cons next rest =>
        show _ ++ (_ ++ '/' :: _) = (_ ++ _) ++ '/' :: _
        rw [List.append_assoc]

/-- **The canonical path is the clean path, written segment by segment.** -/
theorem canonicalPath_eq (path : Option String) (twice normalize : Bool) :
    canonicalPath path twice normalize
      = String.ofList (writePath twice (cleanPath (charsOf path) normalize)) := by
  rw [canonicalPath]
  cases twice with
  | true => exact congrArg String.ofList (encodeAgain_eq _)
  | false => exact congrArg String.ofList (encodePath_eq _)

/-! ## What writing keeps -/

theorem segmentBytes_eq_nil_iff (twice : Bool) (segment : List Char) :
    segmentBytes twice segment = [] ↔ segment = [] := by
  cases twice with
  | true => exact ⟨fun h => Utf8.encode_injective h, fun h => h ▸ rfl⟩
  | false => exact Percent.toBytes_eq_nil_iff segment

theorem writeSegment_eq_nil_iff (twice : Bool) (segment : List Char) :
    writeSegment twice segment = [] ↔ segment = [] := by
  rw [← segmentBytes_eq_nil_iff twice segment]
  exact ⟨fun h => Percent.encode_injective h, fun h => by rw [writeSegment, h]; rfl⟩

/-- A segment is written without slashes. -/
theorem not_mem_writeSegment (twice : Bool) (segment : List Char) :
    '/' ∉ writeSegment twice segment :=
  Percent.not_mem_encode rfl (by decide) _

/-- What was written is written again AS IT STANDS, if its escapes are read. -/
theorem writeSegment_writeSegment (twice : Bool) (segment : List Char) :
    writeSegment false (writeSegment twice segment) = writeSegment twice segment := by
  show Percent.encode _ (Percent.toBytes (writeSegment twice segment)) = _
  rw [writeSegment, Percent.toBytes_encode rfl]

/-- A segment is written as a dot segment IF AND ONLY IF it stands for one. -/
theorem isDots_writeSegment (twice : Bool) (segment : List Char) :
    IsDots (writeSegment twice segment)
      ↔ segmentBytes twice segment = [0x2E] ∨ segmentBytes twice segment = [0x2E, 0x2E] := by
  have hdot : Percent.encode (fun _ => false) [0x2E] = dot := by decide
  have hdotDot : Percent.encode (fun _ => false) [0x2E, 0x2E] = dotDot := by decide
  rw [IsDots, ← hdot, ← hdotDot]
  constructor
  · rintro (h | h)
    · exact .inl (Percent.encode_injective h)
    · exact .inr (Percent.encode_injective h)
  · rintro (h | h)
    · exact .inl (congrArg _ h)
    · exact .inr (congrArg _ h)

theorem split_writePath (twice : Bool) (path : List Char) :
    split '/' (writePath twice path) = (split '/' path).map (writeSegment twice) :=
  split_join_map (not_mem_writeSegment twice) path

theorem writePath_eq_nil_iff (twice : Bool) (path : List Char) :
    writePath twice path = [] ↔ path = [] := by
  constructor
  · intro h
    have hsplit := split_writePath twice path
    rw [h] at hsplit
    -- the empty text is one empty piece
    obtain ⟨segment, hpath, hsegment⟩ := List.map_eq_singleton_iff.mp hsplit.symm
    rw [writeSegment_eq_nil_iff] at hsegment
    rw [← join_split '/' path, hpath, hsegment]
    rfl
  · rintro rfl
    cases twice with
    | true => rfl
    | false => rfl

/-- Writing a path puts no slashes side by side, and parts none. -/
theorem singleSlashes_writePath (twice : Bool) (path : List Char) :
    SingleSlashes (writePath twice path) ↔ SingleSlashes path := by
  rw [singleSlashes_iff, singleSlashes_iff, split_writePath, ← List.map_tail, ← List.map_dropLast,
    List.mem_map]
  refine not_congr ?_
  constructor
  · rintro ⟨segment, hmem, hnil⟩
    rwa [(writeSegment_eq_nil_iff twice segment).mp hnil] at hmem
  · intro hmem
    exact ⟨[], hmem, (writeSegment_eq_nil_iff twice []).mpr rfl⟩

/-- What was written is written again as it stands. -/
theorem writePath_writePath (twice : Bool) (path : List Char) :
    writePath false (writePath twice path) = writePath twice path := by
  rw [writePath, split_writePath, List.map_map]
  refine congrArg (join '/') (List.map_congr_left fun segment _ => ?_)
  exact writeSegment_writeSegment twice segment

/-! ## Normal paths -/

/-- A segment that stands for a dot segment once its escapes are read. -/
def SpellsDots (segment : List Char) : Prop :=
  Percent.toBytes segment = [0x2E] ∨ Percent.toBytes segment = [0x2E, 0x2E]

/-- A path with such a segment. -/
def HidesDots (path : List Char) : Prop := ∃ segment ∈ split '/' path, SpellsDots segment

theorem orRoot_ne_nil (path : List Char) : orRoot path ≠ [] := by
  cases path with
  | nil => exact List.cons_ne_nil _ _
  | cons c cs => exact List.cons_ne_nil c cs

theorem orRoot_of_ne_nil {path : List Char} (h : path ≠ []) : orRoot path = path := by
  cases path with
  | nil => exact absurd rfl h
  | cons c cs => rfl

/-- The root has empty segments only. -/
theorem mem_split_orRoot {path segment : List Char} (h : segment ∈ split '/' (orRoot path)) :
    segment = [] ∨ segment ∈ split '/' path := by
  cases path with
  | nil =>
    refine .inl ?_
    simpa [orRoot, split] using h
  | cons c cs => exact .inr h

theorem singleSlashes_root : SingleSlashes ['/'] := by
  rw [singleSlashes_iff]
  exact List.not_mem_nil

theorem cleanPath_normalize (path : List Char) :
    cleanPath path true = orRoot (removeDotSegments (orRoot path) true) :=
  if_pos rfl

theorem cleanPath_ne_nil (path : List Char) (normalize : Bool) : cleanPath path normalize ≠ [] := by
  unfold cleanPath
  split
  · exact orRoot_ne_nil _
  · exact orRoot_ne_nil path

theorem dotFree_cleanPath (path : List Char) : DotFree (cleanPath path true) := by
  intro segment h
  rw [cleanPath_normalize] at h
  rcases mem_split_orRoot h with rfl | h
  · exact not_isDots_nil
  · exact dotFree_removeDotSegments _ true segment h

theorem singleSlashes_cleanPath (path : List Char) : SingleSlashes (cleanPath path true) := by
  rw [cleanPath_normalize]
  by_cases hnil : removeDotSegments (orRoot path) true = []
  · rw [hnil]
    exact singleSlashes_root
  · rw [orRoot_of_ne_nil hnil]
    exact singleSlashes_removeDotSegments (orRoot path)

theorem toList_canonicalPath (path : Option String) (twice normalize : Bool) :
    (canonicalPath path twice normalize).toList
      = writePath twice (cleanPath (charsOf path) normalize) := by
  rw [canonicalPath_eq, String.toList_ofList]

/-- Slashes are single, however the path is encoded. -/
theorem singleSlashes_canonicalPath (path : Option String) (twice : Bool) :
    SingleSlashes (canonicalPath path twice true).toList := by
  rw [toList_canonicalPath, singleSlashes_writePath]
  exact singleSlashes_cleanPath (charsOf path)

/-- Where escapes are not read, no dot segment comes from one. -/
theorem dotFree_canonicalPath_twice (path : Option String) :
    DotFree (canonicalPath path true true).toList := by
  intro piece hpiece hdots
  rw [toList_canonicalPath, split_writePath] at hpiece
  obtain ⟨segment, hmem, rfl⟩ := List.mem_map.mp hpiece
  refine dotFree_cleanPath (charsOf path) segment hmem ?_
  rcases (isDots_writeSegment true segment).mp hdots with h | h
  · exact .inl (Utf8.encode_injective (b := dot) h)
  · exact .inr (Utf8.encode_injective (b := dotDot) h)

/-- Where escapes are read, the dot segments that come out are those that were hidden in escapes. -/
theorem dotFree_canonicalPath_iff (path : Option String) :
    DotFree (canonicalPath path false true).toList ↔ ¬HidesDots (cleanPath (charsOf path) true) := by
  rw [toList_canonicalPath]
  constructor
  · rintro hfree ⟨segment, hmem, hspells⟩
    refine hfree (writeSegment false segment) ?_ ((isDots_writeSegment false segment).mpr hspells)
    rw [split_writePath]
    exact List.mem_map_of_mem hmem
  · intro hhides piece hpiece hdots
    rw [split_writePath] at hpiece
    obtain ⟨segment, hmem, rfl⟩ := List.mem_map.mp hpiece
    exact hhides ⟨segment, hmem, (isDots_writeSegment false segment).mp hdots⟩

theorem canonicalPath_ne_nil (path : Option String) (twice normalize : Bool) :
    (canonicalPath path twice normalize).toList ≠ [] := by
  rw [toList_canonicalPath, Ne, writePath_eq_nil_iff]
  exact cleanPath_ne_nil (charsOf path) normalize

/-- What is left of a canonical path, before it is written again. -/
theorem cleanPath_canonicalPath (path : Option String) :
    cleanPath (charsOf (some (canonicalPath path false true))) true
      = orRoot (removeDotSegments (canonicalPath path false true).toList true) := by
  rw [cleanPath_normalize]
  show orRoot (removeDotSegments (orRoot (canonicalPath path false true).toList) true) = _
  rw [orRoot_of_ne_nil (canonicalPath_ne_nil path false true)]

/-- A path that is made canonical TWICE is free of dot segments: escapes of dots were read the first time,
and what they stood for is removed the second time. -/
theorem dotFree_canonicalPath_again (path : Option String) :
    DotFree (canonicalPath (some (canonicalPath path false true)) false true).toList := by
  rw [dotFree_canonicalPath_iff, cleanPath_canonicalPath]
  rintro ⟨segment, hmem, hspells⟩
  have hwritten := (isDots_writeSegment false segment).mpr hspells
  have hremains : Remains (canonicalPath path false true).toList segment := by
    rcases mem_split_orRoot hmem with hnil | hmem
    · exact .inl hnil
    · exact remains_of_mem_split hmem
  rcases hremains with rfl | ⟨hmem, hdots⟩
  · rw [(writeSegment_eq_nil_iff false []).mpr rfl] at hwritten
    exact not_isDots_nil hwritten
  · -- a segment that was written is written again as it stands
    rw [toList_canonicalPath, split_writePath] at hmem
    obtain ⟨origin, -, rfl⟩ := List.mem_map.mp hmem
    rw [writeSegment_writeSegment] at hwritten
    exact hdots hwritten

/-- A canonical path without dot segments is canonical already. -/
theorem canonicalPath_of_dotFree {path : Option String}
    (h : DotFree (canonicalPath path false true).toList) :
    canonicalPath (some (canonicalPath path false true)) false true = canonicalPath path false true := by
  have hslashes := singleSlashes_canonicalPath path false
  rw [canonicalPath_eq (some _), cleanPath_canonicalPath, removeDotSegments_of_normal h hslashes,
    orRoot_of_ne_nil (canonicalPath_ne_nil path false true), toList_canonicalPath,
    writePath_writePath, ← canonicalPath_eq]

/-- **What a canonical path of a normalised path is.**  It has single slashes.  Encoded twice it is free of
dot segments.  Encoded once it is so if and only if the path that is left of the dot segments hides none in
escapes, and exactly then it is not changed when it is made canonical again; made canonical twice, every
path is free of dot segments and stable. -/
theorem canonicalPath_normal (path : Option String) :
    (∀ twice, SingleSlashes (canonicalPath path twice true).toList)
      ∧ DotFree (canonicalPath path true true).toList
      ∧ (DotFree (canonicalPath path false true).toList ↔ ¬HidesDots (cleanPath (charsOf path) true))
      ∧ (canonicalPath (some (canonicalPath path false true)) false true
            = canonicalPath path false true
          ↔ ¬HidesDots (cleanPath (charsOf path) true))
      ∧ let again := canonicalPath (some (canonicalPath path false true)) false true
        DotFree again.toList ∧ canonicalPath (some again) false true = again := by
  refine ⟨singleSlashes_canonicalPath path, dotFree_canonicalPath_twice path,
    dotFree_canonicalPath_iff path, ?_, ?_⟩
  · constructor
    · intro hstable
      rw [← dotFree_canonicalPath_iff, ← hstable]
      exact dotFree_canonicalPath_again path
    · intro hhides
      exact canonicalPath_of_dotFree ((dotFree_canonicalPath_iff path).mpr hhides)
  · exact ⟨dotFree_canonicalPath_again path,
      canonicalPath_of_dotFree (dotFree_canonicalPath_again path)⟩

/-- A dot in an escape COMES OUT AS A DOT SEGMENT, and the canonical path is not stable. -/
theorem canonicalPath_normal_not_escaped :
    let canonical := canonicalPath (some "/%2E/a") false true
    canonical = "/./a" ∧ ¬DotFree canonical.toList
      ∧ canonicalPath (some canonical) false true ≠ canonical := by
  intro canonical
  have hcanonical : canonical = "/./a" := by decide
  rw [hcanonical]
  refine ⟨rfl, fun h => ?_, by decide⟩
  exact h dot (by decide) (.inl rfl)

end SigV4.Path
