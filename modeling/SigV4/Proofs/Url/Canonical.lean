/-
  THE CANONICAL FORM OF A QUERY, and which queries share it.

  1. **Bytes** — `byteParams` are the parameters of a query as BYTES: an escape stands for its byte, every
     other character for its UTF-8 form.  `asText` reads them as texts; what is no UTF-8 is replaced there.
  2. **The order** — `paramLE` is a total order, so parameters have ONE sorted form.
  3. **Reading back** — the canonical form is read as the parameters of the query, in the order of their
     written forms (`parse_canonical`); so two queries share it if and only if they have the same
     parameters, each as often (`canonicalQuery_eq_iff_params`).
  4. **One form** — `canonicalQuery_canonical`: of all queries with these parameters, in whatever order, it
     is the one that is its own canonical form.
  5. **Separation** — `canonicalQuery_separates`: of queries whose parameters are UTF-8 the canonical form
     tells the bytes apart; of others only what is left of the bytes once they were read as texts.
  6. **Adding** — `withParams_reads`: parameters that are added to an address are read behind those of its
     query, and its canonical form writes all of them in order (`IsSortedForm`).

  The crux is where bytes are lost: writing a parameter loses NOTHING (`parse_format`), reading one does.
-/
import SigV4.Proofs.Url.Query

namespace SigV4

namespace Utf8

/-- Bytes that are the UTF-8 form of a text. -/
def WellFormed (bs : Bytes) : Prop := ∃ cs, encode cs = bs

/-- What is well formed is not changed by reading and writing it. -/
theorem WellFormed.encode_decode {bs : Bytes} (h : WellFormed bs) : encode (decode bs) = bs := by
  obtain ⟨cs, rfl⟩ := h
  rw [decode_encode]

end Utf8

namespace Query

open Text

/-! ## Bytes -/

/-- A name and a value, as bytes. -/
abbrev ByteParam := Bytes × Bytes

/-- The bytes that one side of a parameter stands for: `+` is a space, and escapes stand for bytes. -/
def sideBytes (cs : List Char) : Bytes :=
  Percent.toBytes (cs.map fun c => if c = '+' then ' ' else c)

/-- The bytes that a piece writes: a name up to the first `=`, and a value behind it. -/
def byteParam (piece : List Char) : ByteParam :=
  let (name, value?) := cut '=' piece
  (sideBytes name, sideBytes (value?.getD []))

/-- **The parameters of a query, as bytes,** in order. -/
def byteParams (query : Option String) : List ByteParam :=
  ((split '&' ((query.map String.toList).getD [])).filter (!·.isEmpty)).map byteParam

/-- A parameter as text; what is no UTF-8 is replaced. -/
def asText (p : ByteParam) : Param := (Utf8.decode p.1, Utf8.decode p.2)

/-- A parameter of UTF-8 on both sides. -/
def WellFormed (p : ByteParam) : Prop := Utf8.WellFormed p.1 ∧ Utf8.WellFormed p.2

/-- The parameters that are read are those bytes, AS TEXTS. -/
theorem parse_eq (query : Option String) :
    parse ((query.map String.toList).getD []) = (byteParams query).map asText := by
  rw [parse, byteParams, List.map_map]
  rfl

/-- Parameters of UTF-8 are found again in their texts. -/
theorem map_encode_asText {params : List ByteParam} (h : ∀ p ∈ params, WellFormed p) :
    (params.map asText).map (fun p => (Utf8.encode p.1, Utf8.encode p.2)) = params := by
  rw [List.map_map]
  refine (List.map_congr_left fun p hp => ?_).trans (List.map_id _)
  obtain ⟨hname, hvalue⟩ := h p hp
  show (Utf8.encode (Utf8.decode p.1), Utf8.encode (Utf8.decode p.2)) = p
  rw [hname.encode_decode, hvalue.encode_decode]

/-- Parameters of UTF-8 are the same IF THEIR TEXTS ARE, each as often. -/
theorem perm_asText_iff {ps qs : List ByteParam} (hp : ∀ p ∈ ps, WellFormed p)
    (hq : ∀ q ∈ qs, WellFormed q) : (ps.map asText).Perm (qs.map asText) ↔ ps.Perm qs := by
  refine ⟨fun h => ?_, fun h => h.map asText⟩
  rw [← map_encode_asText hp, ← map_encode_asText hq]
  exact h.map _

/-! ## The order -/

theorem paramLE_total (p q : Param) : (paramLE p q || paramLE q p) = true := by
  unfold paramLE
  by_cases h : p.1 = q.1
  · rw [if_pos h, if_pos h.symm]
    exact inOrder_total p.2 q.2
  · rw [if_neg h, if_neg (Ne.symm h)]
    exact inOrder_total p.1 q.1

theorem paramLE_antisymm {p q : Param} (h : paramLE p q = true) (h' : paramLE q p = true) :
    p = q := by
  unfold paramLE at h h'
  by_cases hname : p.1 = q.1
  · rw [if_pos hname] at h
    rw [if_pos hname.symm] at h'
    exact Prod.ext hname (inOrder_antisymm h h')
  · rw [if_neg hname] at h
    rw [if_neg (Ne.symm hname)] at h'
    exact absurd (inOrder_antisymm h h') hname

theorem paramLE_trans {p q r : Param} (h : paramLE p q = true) (h' : paramLE q r = true) :
    paramLE p r = true := by
  unfold paramLE at h h' ⊢
  by_cases hpq : p.1 = q.1
  · rw [if_pos hpq] at h
    rw [hpq]
    by_cases hqr : q.1 = r.1
    · rw [if_pos hqr] at h' ⊢
      exact inOrder_trans h h'
    · rw [if_neg hqr] at h' ⊢
      exact h'
  · rw [if_neg hpq] at h
    by_cases hqr : q.1 = r.1
    · rwa [← hqr, if_neg hpq]
    · rw [if_neg hqr] at h'
      have hpr : p.1 ≠ r.1 := by
        -- names that come before each other would be the same
        intro hpr
        rw [hpr] at h hpq
        exact hqr (inOrder_antisymm h' h)
      rw [if_neg hpr]
      exact inOrder_trans h h'

/-- Sorted parameters stand in order. -/
theorem pairwise_sort (ps : List Param) :
    (ps.mergeSort paramLE).Pairwise fun p q => paramLE p q = true :=
  List.pairwise_mergeSort (fun p q r => paramLE_trans (p := p) (q := q) (r := r)) paramLE_total ps

/-- Parameters have ONE sorted form. -/
theorem sort_eq_of_perm {ps qs : List Param} (h : ps.Perm qs) :
    ps.mergeSort paramLE = qs.mergeSort paramLE := by
  refine List.Perm.eq_of_pairwise (fun p q _ _ => paramLE_antisymm) (pairwise_sort ps)
    (pairwise_sort qs) ?_
  exact ((List.mergeSort_perm ps paramLE).trans h).trans (List.mergeSort_perm qs paramLE).symm

/-! ## Reading back -/

/-- A written parameter, as it was before it was written. -/
def decodeParam (p : Param) : Param := (Percent.decodeText p.1, Percent.decodeText p.2)

theorem decodeParam_encodeParam (p : Param) : decodeParam (encodeParam p) = p := by
  show (Percent.decodeText (Percent.encodeText p.1), Percent.decodeText (Percent.encodeText p.2)) = p
  rw [Percent.decodeText_encodeText, Percent.decodeText_encodeText]

/-- Written parameters are found again. -/
theorem map_decodeParam_encodeParam (params : List Param) :
    (params.map encodeParam).map decodeParam = params := by
  rw [List.map_map]
  exact (List.map_congr_left fun p _ => decodeParam_encodeParam p).trans (List.map_id _)

/-- Written parameters, put into another order, are the written forms of the same parameters. -/
theorem exists_encoded {written params : List Param} (h : written.Perm (params.map encodeParam)) :
    ∃ ps : List Param, ps.Perm params ∧ written = ps.map encodeParam := by
  refine ⟨written.map decodeParam, ?_, ?_⟩
  · have hperm := h.map decodeParam
    rwa [map_decodeParam_encodeParam] at hperm
  · rw [List.map_map]
    refine ((List.map_congr_left fun p hp => ?_).trans (List.map_id _)).symm
    -- every one of them was written
    obtain ⟨q, -, rfl⟩ := List.mem_map.mp (h.subset hp)
    show encodeParam (decodeParam (encodeParam q)) = encodeParam q
    rw [decodeParam_encodeParam]

/-- The parameters of a query, in order. -/
def params (query : Option String) : List Param := parse ((query.map String.toList).getD [])

/-- The canonical form is read as parameters whose written forms are THOSE OF THE QUERY, SORTED. -/
theorem map_encodeParam_canonical (query : Option String) :
    (params (some (canonicalQuery query))).map encodeParam
      = ((params query).map encodeParam).mergeSort paramLE := by
  obtain ⟨ps, -, hsorted⟩ :=
    exists_encoded (List.mergeSort_perm ((params query).map encodeParam) paramLE)
  have hformat : (canonicalQuery query).toList = format ps := by
    show (String.ofList (join '&' ((((params query).map encodeParam).mergeSort paramLE).map
      writeParam))).toList = _
    rw [String.toList_ofList, hsorted, List.map_map]
    rfl
  show (parse (canonicalQuery query).toList).map encodeParam = _
  rw [hformat, parse_format, hsorted]

/-- **The canonical form is read as the query's own parameters,** in the order of their written forms. -/
theorem parse_canonical (query : Option String) :
    (params (some (canonicalQuery query))).Perm (params query) := by
  have hwritten := List.mergeSort_perm ((params query).map encodeParam) paramLE
  rw [← map_encodeParam_canonical] at hwritten
  have hperm := hwritten.map decodeParam
  rwa [map_decodeParam_encodeParam, map_decodeParam_encodeParam] at hperm

/-- Queries have one canonical form IF AND ONLY IF they have the same parameters, each as often. -/
theorem canonicalQuery_eq_iff_params (q r : Option String) :
    canonicalQuery q = canonicalQuery r ↔ (params q).Perm (params r) := by
  constructor
  · intro h
    have hq := parse_canonical q
    rw [h] at hq
    exact hq.symm.trans (parse_canonical r)
  · intro h
    show String.ofList (join '&' ((((params q).map encodeParam).mergeSort paramLE).map writeParam)) = _
    rw [sort_eq_of_perm (h.map encodeParam)]
    rfl

/-- That is, if and only if their bytes have the same texts. -/
theorem canonicalQuery_eq_iff (q r : Option String) :
    canonicalQuery q = canonicalQuery r
      ↔ ((byteParams q).map asText).Perm ((byteParams r).map asText) := by
  rw [canonicalQuery_eq_iff_params, params, params, parse_eq, parse_eq]

/-! ## One form -/

/-- The pieces of a query between the `&`, in order. -/
def pieces (query : Option String) : List (List Char) :=
  split '&' ((query.map String.toList).getD [])

/-- The order of the pieces decides on the order of the parameters only. -/
theorem params_perm_of_pieces {q r : Option String} (h : (pieces q).Perm (pieces r)) :
    (params q).Perm (params r) :=
  (h.filter fun piece : List Char => !piece.isEmpty).map readParam

/-- The parameters of a query are those that it is read as. -/
theorem spelled_read (query : Option String) : spelled (read query) = params query := by
  unfold spelled read
  rw [List.map_map]
  refine (List.map_congr_left fun p _ => ?_).trans (List.map_id _)
  show ((String.ofList p.1).toList, (String.ofList p.2).toList) = p
  rw [String.toList_ofList, String.toList_ofList]

/-- Added parameters stand BEHIND those that were there. -/
theorem params_append (query : Option String) (added : List (String × String)) :
    params (some (append query added)) = params query ++ spelled added := by
  rw [← spelled_read, read_append, ← spelled_read]
  exact List.map_append

/-- **The canonical form is a canonical form of the parameters.**  It is read as the parameters of the query,
ordered by their written names and then by their written values.  Two queries share it if and only if they
have the same parameters, each as often; so it is its own canonical form, and does not depend on the order of
the pieces. -/
theorem canonicalQuery_canonical (q r : Option String) :
    (params (some (canonicalQuery q))).Perm (params q)
      ∧ ((params (some (canonicalQuery q))).map encodeParam).Pairwise
          (fun earlier later => paramLE earlier later = true)
      ∧ (canonicalQuery q = canonicalQuery r ↔ (params q).Perm (params r))
      ∧ canonicalQuery (some (canonicalQuery q)) = canonicalQuery q
      ∧ ((pieces q).Perm (pieces r) → canonicalQuery q = canonicalQuery r) := by
  have hsorted : ((params (some (canonicalQuery q))).map encodeParam).Pairwise
      (fun earlier later => paramLE earlier later = true) := by
    rw [map_encodeParam_canonical]
    exact pairwise_sort _
  refine ⟨parse_canonical q, hsorted, canonicalQuery_eq_iff_params q r, ?_, ?_⟩
  · exact (canonicalQuery_eq_iff_params _ q).mpr (parse_canonical q)
  · intro h
    exact (canonicalQuery_eq_iff_params q r).mpr (params_perm_of_pieces h)

/-- Pieces in another order: a name twice, an empty name, an empty value, a missing `=`, and an empty piece. -/
theorem canonicalQuery_canonical_reordered :
    let q : Option String := some "b&=x&a=%7e&&b=&a=+"
    let r : Option String := some "&a=+&b=&a=%7e&=x&b"
    (pieces q).Perm (pieces r) ∧ canonicalQuery q = canonicalQuery r := by
  intro q r
  have hpieces : (pieces q).Perm (pieces r) := by decide
  exact ⟨hpieces, (canonicalQuery_canonical q r).2.2.2.2 hpieces⟩

/-! ## Separation -/

/-- **What the canonical form of a query tells apart.**  Two queries share it if and only if their parameters
are the same, each as often, once their bytes were read as texts.  Of parameters that are UTF-8 these are the
bytes themselves; of all others only what the replacement has left. -/
theorem canonicalQuery_separates (q r : Option String) :
    (canonicalQuery q = canonicalQuery r
        ↔ ((byteParams q).map asText).Perm ((byteParams r).map asText))
      ∧ ((∀ p ∈ byteParams q, WellFormed p) → (∀ p ∈ byteParams r, WellFormed p) →
        (canonicalQuery q = canonicalQuery r ↔ (byteParams q).Perm (byteParams r))) := by
  refine ⟨canonicalQuery_eq_iff q r, fun hq hr => ?_⟩
  rw [canonicalQuery_eq_iff]
  exact perm_asText_iff hq hr

/-- A letter that is escaped in one query and stands for itself in another, whose parameters stand in another
order and have an empty piece between them. -/
theorem canonicalQuery_separates_escaped :
    let q : Option String := some "b=+&a=%c3%A9"
    let r : Option String := some "a=é&&b=%20"
    ((∀ p ∈ byteParams q, WellFormed p) ∧ (∀ p ∈ byteParams r, WellFormed p))
      ∧ (canonicalQuery q = canonicalQuery r ↔ (byteParams q).Perm (byteParams r))
      ∧ canonicalQuery q = canonicalQuery r := by
  intro q r
  have hq : byteParams q = [([98], [32]), ([97], [195, 169])] := by decide
  have hr : byteParams r = [([97], [195, 169]), ([98], [32])] := by decide
  have hb : WellFormed ([98], [32]) := ⟨⟨['b'], by decide⟩, ⟨[' '], by decide⟩⟩
  have ha : WellFormed ([97], [195, 169]) := ⟨⟨['a'], by decide⟩, ⟨['é'], by decide⟩⟩
  have hwq : ∀ p ∈ byteParams q, WellFormed p := by
    rw [hq]
    simp [ha, hb]
  have hwr : ∀ p ∈ byteParams r, WellFormed p := by
    rw [hr]
    simp [ha, hb]
  have hsep := (canonicalQuery_separates q r).2 hwq hwr
  refine ⟨⟨hwq, hwr⟩, hsep, hsep.mpr ?_⟩
  rw [hq, hr]
  exact List.Perm.swap _ _ []

/-- A byte that is no UTF-8 and the character that replaces it HAVE ONE CANONICAL FORM, though the bytes of
the parameters differ. -/
theorem canonicalQuery_eq_of_replaced :
    let q : Option String := some "a=%FF"
    let r : Option String := some "a=%EF%BF%BD"
    canonicalQuery q = canonicalQuery r ∧ ¬(byteParams q).Perm (byteParams r) := by
  intro q r
  have hq : byteParams q = [([97], [255])] := by decide
  have hr : byteParams r = [([97], [239, 191, 189])] := by decide
  have hlost : Utf8.decode [255] = [Utf8.replacement] := by
    rw [Utf8.decode_cons]
    simp [Utf8.first]
  have hkept : Utf8.decode [239, 191, 189] = [Utf8.replacement] :=
    Utf8.decode_encode [Utf8.replacement]
  refine ⟨(canonicalQuery_eq_iff q r).mpr ?_, ?_⟩
  · rw [hq, hr]
    show [(Utf8.decode [97], Utf8.decode [255])].Perm [(Utf8.decode [97], Utf8.decode [239, 191, 189])]
    rw [hlost, hkept]
  · rw [hq, hr]
    decide

/-! ## Adding -/

/-- A text that writes parameters in the order of their escaped names and, under one name, of their escaped
values. -/
def IsSortedForm (params : List Param) (form : String) : Prop :=
  ∃ written : List Param, written.Perm (params.map encodeParam)
    ∧ written.Pairwise (fun earlier later => paramLE earlier later = true)
    ∧ form = String.ofList (join '&' (written.map writeParam))

/-- The canonical form of a query is THE SORTED FORM of its parameters; there is no other. -/
theorem canonicalQuery_eq_iff_isSortedForm (query : Option String) (form : String) :
    canonicalQuery query = form ↔ IsSortedForm (params query) form := by
  constructor
  · rintro rfl
    exact ⟨_, List.mergeSort_perm _ paramLE, pairwise_sort _, rfl⟩
  · rintro ⟨written, hperm, hsorted, rfl⟩
    have hwritten : written = ((params query).map encodeParam).mergeSort paramLE :=
      List.Perm.eq_of_pairwise (fun p q _ _ => paramLE_antisymm) hsorted (pairwise_sort _)
        (hperm.trans (List.mergeSort_perm _ paramLE).symm)
    rw [hwritten]
    rfl

end Query

/-- **ADDING PARAMETERS LOSES NOTHING.**  Whatever the query of an address is, and whatever is added: the query
is read as the parameters that it had, and behind them the added ones, as they were and in order; and its
canonical form is the sorted form of them all. -/
theorem Address.withParams_reads (a : Address) (added : List (String × String)) :
    let query := (a.withParams added).query
    Query.read query = Query.read a.query ++ added
      ∧ ∀ form, Query.canonicalQuery query = form
        ↔ Query.IsSortedForm (Query.spelled (Query.read a.query ++ added)) form := by
  intro query
  have hread : Query.read query = Query.read a.query ++ added := Query.read_append a.query added
  refine ⟨hread, fun form => ?_⟩
  rw [← hread, Query.spelled_read]
  exact Query.canonicalQuery_eq_iff_isSortedForm query form

end SigV4
