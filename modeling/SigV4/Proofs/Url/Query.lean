/-
  QUERIES, written and read back.

  1. **Parameters** — a parameter that was written is read again, and no `&` is in it.
  2. **Rows of them** — `parse_format`, and `read_append`: further parameters are read BEHIND those that
     stood there, whatever those look like.
  3. **The last one** — `withoutLast` cuts off what stands behind the last `&`; a parameter that was added
     to a query with any text in it is taken away again by that, to the letter (`withoutLast_append`).

  The crux is that a written parameter holds none of the three marks of a query: `&` and `=` part it, and
  `+` would be read as a space.
-/
import SigV4.Proofs.Url.Percent
import SigV4.Url.Address

namespace SigV4.Query

open Text

/-! ## Parameters -/

theorem decodeSide_encodeText (cs : List Char) : decodeSide (Percent.encodeText cs) = cs := by
  have hplus : '+' ∉ Percent.encodeText cs := Percent.not_mem_encodeText rfl (by decide) cs
  have hmap : (Percent.encodeText cs).map (fun c => if c = '+' then ' ' else c)
      = Percent.encodeText cs := by
    refine (List.map_congr_left fun c hc => if_neg ?_).trans (List.map_id _)
    rintro rfl
    exact hplus hc
  rw [decodeSide, hmap, Percent.decodeText_encodeText]

/-- **A parameter that was written is read again.** -/
theorem readParam_writeParam (p : Param) : readParam (writeParam (encodeParam p)) = p := by
  have hmark : '=' ∉ Percent.encodeText p.1 := Percent.not_mem_encodeText rfl (by decide) p.1
  unfold readParam writeParam encodeParam
  rw [cut_of_not_mem hmark]
  show (decodeSide (Percent.encodeText p.1), decodeSide (Percent.encodeText p.2)) = p
  rw [decodeSide_encodeText, decodeSide_encodeText]

theorem not_mem_writeParam (p : Param) : '&' ∉ writeParam (encodeParam p) := by
  have hside (cs : List Char) : '&' ∉ Percent.encodeText cs :=
    Percent.not_mem_encodeText rfl (by decide) cs
  intro h
  rcases List.mem_append.mp h with h | h
  · exact hside p.1 h
  · rcases List.mem_cons.mp h with h | h
    · exact absurd h (by decide)
    · exact hside p.2 h

theorem writeParam_ne_nil (p : Param) : writeParam p ≠ [] :=
  List.append_ne_nil_of_right_ne_nil _ (List.cons_ne_nil _ _)

/-! ## Rows of them -/

/-- Written parameters are the pieces of their row. -/
theorem split_format {params : List Param} (h : params ≠ []) :
    split '&' (format params) = params.map fun p => writeParam (encodeParam p) := by
  refine split_join (by simpa using h) fun piece hpiece => ?_
  obtain ⟨p, -, rfl⟩ := List.mem_map.mp hpiece
  exact not_mem_writeParam p

/-- **A ROW OF PARAMETERS that was written is read again.** -/
theorem parse_format (params : List Param) : parse (format params) = params := by
  cases params with
  | nil => rfl
  | cons p ps =>
    have hkept (rest : List Param) : (rest.map fun p => writeParam (encodeParam p)).filter
        (!·.isEmpty) = rest.map fun p => writeParam (encodeParam p) := by
      rw [List.filter_eq_self]
      intro piece hpiece
      obtain ⟨q, -, rfl⟩ := List.mem_map.mp hpiece
      simpa using writeParam_ne_nil (encodeParam q)
    rw [parse, split_format (List.cons_ne_nil p ps), hkept, List.map_map]
    refine (List.map_congr_left fun q _ => ?_).trans (List.map_id _)
    exact readParam_writeParam q

/-- What stands before an `&` is read before what stands behind it. -/
theorem parse_append (before behind : List Char) :
    parse (before ++ '&' :: behind) = parse before ++ parse behind := by
  rw [parse, split_append, List.filter_append, List.map_append]
  rfl

/-- Parameters by their characters. -/
def spelled (params : List (String × String)) : List Param :=
  params.map fun p => (p.1.toList, p.2.toList)

/-- **The parameters that a query names.** -/
def read (query : Option String) : List (String × String) :=
  (parse ((query.map String.toList).getD [])).map fun p => (String.ofList p.1, String.ofList p.2)

theorem map_spelled (params : List (String × String)) :
    (spelled params).map (fun p => (String.ofList p.1, String.ofList p.2)) = params := by
  rw [spelled, List.map_map]
  refine (List.map_congr_left fun p _ => ?_).trans (List.map_id _)
  simp only [Function.comp_apply, String.ofList_toList, id]

/-- Where nothing stands, nothing is put before what is added. -/
theorem append_empty {query : Option String} (h : query.getD "" = "")
    (params : List (String × String)) :
    append query params = String.ofList (format (spelled params)) := by
  cases query with
  | none => rfl
  | some old =>
    have hold : old = "" := h
    rw [append, if_pos (String.isEmpty_iff.mpr hold)]
    rfl

/-- Where something stands, an `&` stands between it and what is added. -/
theorem toList_append {query : String} (h : query ≠ "") (params : List (String × String)) :
    (append (some query) params).toList = query.toList ++ '&' :: format (spelled params) := by
  have hempty : ¬query.isEmpty = true := fun he => h (String.isEmpty_iff.mp he)
  have hmark : "&".toList = ['&'] := rfl
  rw [append, if_neg hempty, String.toList_append, String.toList_append, hmark,
    String.toList_ofList, List.append_assoc]
  rfl

/-- The query that is added to STAYS IN FRONT. -/
theorem toList_isPrefix_append (query : Option String) (params : List (String × String)) :
    (query.getD "").toList <+: (append query params).toList := by
  by_cases hempty : query.getD "" = ""
  · rw [hempty]
    exact List.nil_prefix
  · cases query with
    | none => exact absurd rfl hempty
    | some old =>
      have hold : old ≠ "" := hempty
      show old.toList <+: (append (some old) params).toList
      rw [toList_append hold]
      exact List.prefix_append _ _

/-- **ADDED PARAMETERS ARE READ BEHIND THOSE THAT STOOD THERE.** -/
theorem read_append (query : Option String) (params : List (String × String)) :
    read (some (append query params)) = read query ++ params := by
  by_cases h : query.getD "" = ""
  · have hold : read query = [] := by
      cases query with
      | none => rfl
      | some old =>
        rw [show old = "" from h]
        rfl
    rw [append_empty h, hold]
    show (parse (String.ofList _).toList).map _ = _
    rw [String.toList_ofList, parse_format]
    exact map_spelled params
  · cases query with
    | none => exact absurd rfl h
    | some old =>
      have hold : old ≠ "" := h
      show (parse (append (some old) params).toList).map _ = (parse old.toList).map _ ++ params
      rw [toList_append hold, parse_append, parse_format, List.map_append, map_spelled]

/-- **The values that a query has under a name,** in order. -/
def valuesOf (query : Option String) (name : String) : List String :=
  ((read query).filter (·.1 = name)).map Prod.snd

/-- Added parameters have their values BEHIND those that were there. -/
theorem valuesOf_append (query : Option String) (params : List (String × String)) (name : String) :
    valuesOf (some (append query params)) name
      = valuesOf query name ++ (params.filter (·.1 = name)).map Prod.snd := by
  rw [valuesOf, read_append, List.filter_append, List.map_append]
  rfl

/-! ## The last one -/

/-- A query without what stands behind its last `&`. -/
def withoutLast (query : String) : String :=
  String.ofList (join '&' (split '&' query.toList).dropLast)

/-- **A PARAMETER THAT WAS ADDED is taken away again,** and the query is what it was. -/
theorem withoutLast_append {query : String} (h : query ≠ "") (p : String × String) :
    withoutLast (append (some query) [p]) = query := by
  have hpiece : format (spelled [p]) = writeParam (encodeParam (p.1.toList, p.2.toList)) := rfl
  rw [withoutLast, toList_append h, split_append, hpiece, split_of_not_mem (not_mem_writeParam _),
    List.dropLast_concat, join_split, String.ofList_toList]

/-- A query to which something was added is NOT EMPTY. -/
theorem append_ne_empty (query : Option String) (p : String × String)
    (params : List (String × String)) : append query (p :: params) ≠ "" := by
  intro h
  have hread := read_append query (p :: params)
  rw [h] at hread
  exact List.append_ne_nil_of_right_ne_nil _ (List.cons_ne_nil p params) hread.symm

end SigV4.Query

namespace SigV4.Address

/-- The address without the last parameter of its query. -/
def withoutLastParam (a : Address) : Address := { a with query := a.query.map Query.withoutLast }

/-- What was added behind other parameters can be taken away again. -/
theorem withoutLastParam_withParams (a : Address) (p : String × String)
    (params : List (String × String)) (last : String × String) :
    ((a.withParams (p :: params)).withParams [last]).withoutLastParam
      = a.withParams (p :: params) := by
  show ({ a with query := some (Query.withoutLast
    (Query.append (some (Query.append a.query (p :: params))) [last])) } : Address) = _
  rw [Query.withoutLast_append (Query.append_ne_empty a.query p params)]
  rfl

end SigV4.Address
