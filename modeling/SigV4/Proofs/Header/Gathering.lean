/-
  GATHERING: the collection that a list of fields makes.

  1. **Merging** — a field whose key is there adds its values to the field of that key and is gone; any other
     goes to the end, as it is.
  2. **Gathering** — so what a list makes has the keys of the list, in the order in which they FIRST occur, and
     under each key the name that came first and the values of all, in order of occurrence (`Gathers`).

  The crux is that a merged field changes neither the name nor the place of the one it is merged into: where a key
  first occurs is not moved by what is given later.
-/
import Mathlib.Data.List.Nodup
import SigV4.Header.Fields

namespace SigV4.Fields

/-! ## Gathering -/

/-- **The fields gather what was given:** one for each key, in the order of the first occurrences, with the name
of the first and the values of all that have the key. -/
structure Gathers (fs : Fields) (given : List Field) : Prop where
  keys : ∀ key, key ∈ fs.keys ↔ key ∈ given.map Field.key
  order : fs.keys.Pairwise fun a b => (given.map Field.key).idxOf a < (given.map Field.key).idxOf b
  name : ∀ e ∈ fs.toList, (given.find? (·.key = e.key)).map Field.name = some e.name
  values : ∀ e ∈ fs.toList, e.values = (given.filter (·.key = e.key)).flatMap Field.values

/-! ## Merging one field -/

/-- The field `e` with the values of `f` behind its own, if they have one key. -/
def mergeInto (f e : Field) : Field :=
  if e.key = f.key then { e with values := e.values ++ f.values } else e

theorem toList_merge_of_mem {fs : Fields} {f : Field} (h : f.key ∈ fs.keys) :
    (fs.merge f).toList = fs.toList.map (mergeInto f) := by
  rw [merge, dif_pos h]
  rfl

theorem toList_merge_of_not_mem {fs : Fields} {f : Field} (h : f.key ∉ fs.keys) :
    (fs.merge f).toList = fs.toList ++ [f] := by
  rw [merge, dif_neg h]
  rfl

theorem name_mergeInto (f e : Field) : (mergeInto f e).name = e.name := by
  unfold mergeInto
  split
  · rfl
  · rfl

theorem key_mergeInto (f e : Field) : (mergeInto f e).key = e.key :=
  congrArg Text.lower (name_mergeInto f e)

theorem values_mergeInto (f e : Field) :
    (mergeInto f e).values = e.values ++ if f.key = e.key then f.values else [] := by
  unfold mergeInto
  by_cases h : e.key = f.key
  · rw [if_pos h, if_pos h.symm]
  · rw [if_neg h, if_neg (Ne.symm h), List.append_nil]

/-! ## One field more -/

/-- The values under a key, where one more field was given. -/
theorem valuesUnder_concat (given : List Field) (f : Field) (key : String) :
    ((given ++ [f]).filter (·.key = key)).flatMap Field.values
      = (given.filter (·.key = key)).flatMap Field.values ++ if f.key = key then f.values else [] := by
  rw [List.filter_append, List.flatMap_append, List.filter_singleton]
  by_cases h : f.key = key
  · rw [if_pos h, decide_eq_true h, Bool.cond_true, List.flatMap_singleton]
  · rw [if_neg h, decide_eq_false h, Bool.cond_false, List.flatMap_nil]

/-- What was given before stays WHERE IT FIRST OCCURRED. -/
theorem Gathers.order_concat {fs : Fields} {given : List Field} (h : fs.Gathers given) (f : Field) :
    fs.keys.Pairwise fun a b =>
      ((given ++ [f]).map Field.key).idxOf a < ((given ++ [f]).map Field.key).idxOf b := by
  refine h.order.imp_of_mem ?_
  intro a b ha hb hlt
  rw [List.map_append, List.idxOf_append_of_mem ((h.keys a).mp ha),
    List.idxOf_append_of_mem ((h.keys b).mp hb)]
  exact hlt

theorem Gathers.name_concat {fs : Fields} {given : List Field} (h : fs.Gathers given) (f : Field)
    {e : Field} (he : e ∈ fs.toList) :
    ((given ++ [f]).find? (·.key = e.key)).map Field.name = some e.name := by
  obtain ⟨first, hfirst, hname⟩ := Option.map_eq_some_iff.mp (h.name e he)
  rw [List.find?_append, hfirst, Option.some_or, Option.map_some, hname]

/-- A field whose key is there adds its values to those of the key. -/
theorem Gathers.merge_again {fs : Fields} {given : List Field} (h : fs.Gathers given) {f : Field}
    (hf : f.key ∈ fs.keys) : (fs.merge f).Gathers (given ++ [f]) := by
  have hlist := toList_merge_of_mem hf
  have hkeys : (fs.merge f).keys = fs.keys := by
    unfold Fields.keys
    rw [hlist, List.map_map]
    exact List.map_congr_left fun e _ => key_mergeInto f e
  constructor
  · intro key
    rw [hkeys, h.keys, List.map_append, List.mem_append, List.map_singleton, List.mem_singleton]
    refine ⟨Or.inl, ?_⟩
    rintro (hkey | rfl)
    · exact hkey
    · exact (h.keys _).mp hf
  · rw [hkeys]
    exact h.order_concat f
  · intro e he
    rw [hlist] at he
    obtain ⟨g, hg, rfl⟩ := List.mem_map.mp he
    rw [key_mergeInto, name_mergeInto]
    exact h.name_concat f hg
  · intro e he
    rw [hlist] at he
    obtain ⟨g, hg, rfl⟩ := List.mem_map.mp he
    rw [key_mergeInto, values_mergeInto, valuesUnder_concat, h.values g hg]

/-- A field whose key is new stands behind the others, as it was given. -/
theorem Gathers.merge_new {fs : Fields} {given : List Field} (h : fs.Gathers given) {f : Field}
    (hf : f.key ∉ fs.keys) : (fs.merge f).Gathers (given ++ [f]) := by
  have hlist := toList_merge_of_not_mem hf
  have hkeys : (fs.merge f).keys = fs.keys ++ [f.key] := by
    unfold Fields.keys
    rw [hlist, List.map_append, List.map_singleton]
  have hgiven : f.key ∉ given.map Field.key := fun hmem => hf ((h.keys _).mpr hmem)
  have hnone : ∀ g ∈ given, ¬decide (g.key = f.key) = true := by
    intro g hg hkey
    exact hgiven (of_decide_eq_true hkey ▸ List.mem_map_of_mem hg)
  constructor
  · intro key
    rw [hkeys, List.map_append, List.mem_append, List.mem_append, h.keys]
    rfl
  · rw [hkeys, List.pairwise_append]
    refine ⟨h.order_concat f, List.pairwise_singleton _ _, ?_⟩
    -- what is new occurs first behind all that was given
    intro a ha b hb
    obtain rfl : b = f.key := List.mem_singleton.mp hb
    have hbefore := (h.keys a).mp ha
    rw [List.map_append, List.idxOf_append_of_mem hbefore, List.idxOf_append_of_notMem hgiven]
    exact Nat.lt_add_right _ (List.idxOf_lt_length_iff.mpr hbefore)
  · intro e he
    rw [hlist, List.mem_append, List.mem_singleton] at he
    rcases he with he | rfl
    · exact h.name_concat f he
    · rw [List.find?_append, List.find?_eq_none.mpr hnone, Option.none_or, List.find?_singleton,
        if_pos (decide_eq_true rfl)]
      rfl
  · intro e he
    rw [hlist, List.mem_append, List.mem_singleton] at he
    rw [valuesUnder_concat]
    rcases he with he | rfl
    · have hother : f.key ≠ e.key := fun hkey => hf (hkey ▸ List.mem_map_of_mem he)
      rw [if_neg hother, List.append_nil]
      exact h.values e he
    · rw [List.filter_eq_nil_iff.mpr hnone, if_pos rfl]
      rfl

/-! ## A list of fields -/

theorem gathers_empty : empty.Gathers [] where
  keys := fun _ => Iff.rfl
  order := List.Pairwise.nil
  name := fun _ he => nomatch he
  values := fun _ he => nomatch he

theorem Gathers.foldl {fs : Fields} {before : List Field} (h : fs.Gathers before) (given : List Field) :
    (given.foldl merge fs).Gathers (before ++ given) := by
  induction given generalizing fs before with
  | nil => rwa [List.append_nil]
  | cons f given ih =>
    have hmerged : (fs.merge f).Gathers (before ++ [f]) := by
      by_cases hf : f.key ∈ fs.keys
      · exact h.merge_again hf
      · exact h.merge_new hf
    have hrest := ih hmerged
    rwa [List.append_assoc] at hrest

/-- **The collection that a list makes GATHERS the list.** -/
theorem gathers_ofList (given : List Field) : (ofList given).Gathers given := gathers_empty.foldl given

end SigV4.Fields
