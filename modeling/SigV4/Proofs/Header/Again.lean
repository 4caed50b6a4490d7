/-
  Fields that are set AGAIN.

  1. **One field** — the later of two values of one key counts (`set_set`); and where a key is there already,
     setting it CAN WAIT: it does not matter what is set in between (`set_comm`).
  2. **A row of fields** — so a row that is set over another of the same keys leaves no trace of it, neither in
     the values nor in the order (`foldl_set_again`).
  3. **Erasing** — a key that is not there need not be erased (`erase_of_not_mem`), and a key that is not set
     behind it can be erased first (`erase_set`).

  The crux is that the first row leaves all its keys in place, and from then on nothing is appended.
-/
import SigV4.Proofs.Header.Signable

namespace SigV4.Fields

/-! ## One field -/

/-- The field `f` in the place of a field of its key. -/
def replaceWith (f e : Field) : Field := if e.key = f.key then f else e

theorem replaceWith_of_eq {f e : Field} (h : e.key = f.key) : replaceWith f e = f := if_pos h

theorem replaceWith_of_ne {f e : Field} (h : e.key ≠ f.key) : replaceWith f e = e := if_neg h

/-- Where no field has the key, nothing is replaced. -/
theorem map_replaceWith_of_not_mem {f : Field} {gs : List Field} (h : f.key ∉ gs.map Field.key) :
    gs.map (replaceWith f) = gs := by
  conv_rhs => rw [← List.map_id gs]
  apply List.map_congr_left
  intro e he
  apply replaceWith_of_ne
  intro hkey
  exact h (hkey ▸ List.mem_map_of_mem he)

theorem toList_set_of_mem {fs : Fields} {f : Field} (h : f.key ∈ fs.keys) :
    (fs.set f).toList = fs.toList.map (replaceWith f) := by
  unfold set
  rw [dif_pos h]
  rfl

theorem toList_set_of_not_mem {fs : Fields} {f : Field} (h : f.key ∉ fs.keys) :
    (fs.set f).toList = fs.toList ++ [f] := by
  unfold set
  rw [dif_neg h]
  rfl

/-- A key that is there is there BEHIND ANY WRITE. -/
theorem mem_keys_set_of_mem {fs : Fields} (f : Field) {key : String} (h : key ∈ fs.keys) :
    key ∈ (fs.set f).keys :=
  mem_keys_set.mpr (.inr h)

/-- The LATER of two values of one key counts. -/
theorem set_set (fs : Fields) {f g : Field} (h : f.key = g.key) : (fs.set f).set g = fs.set g := by
  have hthere : g.key ∈ (fs.set f).keys := mem_keys_set.mpr (.inl h.symm)
  apply ext
  rw [toList_set_of_mem hthere]
  by_cases hg : g.key ∈ fs.keys
  · rw [toList_set_of_mem hg, toList_set_of_mem (h ▸ hg), List.map_map]
    apply List.map_congr_left
    intro e _
    rw [Function.comp_apply]
    by_cases he : e.key = f.key
    · rw [replaceWith_of_eq he, replaceWith_of_eq h, replaceWith_of_eq (he.trans h)]
    · rw [replaceWith_of_ne he]
  · rw [toList_set_of_not_mem hg, toList_set_of_not_mem (h ▸ hg), List.map_append,
      map_replaceWith_of_not_mem hg, List.map_singleton, replaceWith_of_eq h]

/-- Where a key is there, setting it CAN WAIT. -/
theorem set_comm {fs : Fields} {f g : Field} (hg : g.key ∈ fs.keys) (h : f.key ≠ g.key) :
    (fs.set f).set g = (fs.set g).set f := by
  apply ext
  rw [toList_set_of_mem (mem_keys_set_of_mem f hg)]
  by_cases hf : f.key ∈ fs.keys
  · rw [toList_set_of_mem hf, toList_set_of_mem (mem_keys_set_of_mem g hf), toList_set_of_mem hg,
      List.map_map, List.map_map]
    apply List.map_congr_left
    intro e _
    rw [Function.comp_apply, Function.comp_apply]
    by_cases hef : e.key = f.key
    · have heg : e.key ≠ g.key := hef ▸ h
      rw [replaceWith_of_eq hef, replaceWith_of_ne h, replaceWith_of_ne heg, replaceWith_of_eq hef]
    · rw [replaceWith_of_ne hef]
      by_cases heg : e.key = g.key
      · rw [replaceWith_of_eq heg, replaceWith_of_ne h.symm]
      · rw [replaceWith_of_ne heg, replaceWith_of_ne hef]
  · have hnone : f.key ∉ (fs.set g).keys := by
      rw [mem_keys_set]
      rintro (hkey | hkey)
      · exact h hkey
      · exact hf hkey
    rw [toList_set_of_not_mem hf, toList_set_of_not_mem hnone, toList_set_of_mem hg, List.map_append,
      List.map_singleton, replaceWith_of_ne h]

/-! ## A row of fields -/

/-- Where its key is there, a field can wait FOR A ROW of others. -/
theorem foldl_set_comm {fs : Fields} {g : Field} (hg : g.key ∈ fs.keys) {row : List Field}
    (hrow : g.key ∉ row.map Field.key) : (row.foldl set fs).set g = row.foldl set (fs.set g) := by
  induction row generalizing fs with
  | nil => rfl
  | cons f row ih =>
    rw [List.map_cons, List.mem_cons, not_or] at hrow
    rw [List.foldl_cons, List.foldl_cons, ih (mem_keys_set_of_mem f hg) hrow.2,
      set_comm hg (Ne.symm hrow.1)]

/-- **A row that is set over another of the same keys** leaves no trace of it. -/
theorem foldl_set_again (fs : Fields) {row other : List Field}
    (h : row.map Field.key = other.map Field.key) (hnodup : (row.map Field.key).Nodup) :
    other.foldl set (row.foldl set fs) = other.foldl set fs := by
  induction other generalizing fs row with
  | nil =>
    obtain rfl : row = [] := List.map_eq_nil_iff.mp h
    rfl
  | cons g other ih =>
    cases row with
    | nil => exact nomatch h
    | cons f row =>
      obtain ⟨hkey, hrest⟩ := List.cons.inj h
      obtain ⟨hfresh, hnodup⟩ := List.nodup_cons.mp hnodup
      have hthere : g.key ∈ (fs.set f).keys := mem_keys_set.mpr (.inl hkey.symm)
      calc other.foldl set (((row.foldl set (fs.set f))).set g)
          = other.foldl set (row.foldl set ((fs.set f).set g)) := by
            rw [foldl_set_comm hthere (hkey ▸ hfresh)]
        _ = other.foldl set (row.foldl set (fs.set g)) := by rw [set_set fs hkey]
        _ = other.foldl set (fs.set g) := ih (fs.set g) hrest hnodup

/-! ## Erasing -/

/-- A key that is not there NEED NOT BE ERASED. -/
theorem erase_of_not_mem {fs : Fields} {name : String} (h : Text.lower name ∉ fs.keys) :
    fs.erase name = fs := by
  apply ext
  rw [toList_erase, List.filter_eq_self]
  intro g hg
  apply decide_eq_true
  intro hkey
  exact h (hkey ▸ List.mem_map_of_mem hg)

/-- What has another key can be set before or behind an erasing. -/
theorem erase_set (fs : Fields) {f : Field} {name : String} (h : f.key ≠ Text.lower name) :
    (fs.set f).erase name = (fs.erase name).set f := by
  apply ext
  by_cases hf : f.key ∈ fs.keys
  · have hsame : fs.toList.filter ((fun g => decide (g.key ≠ Text.lower name)) ∘ replaceWith f)
        = fs.toList.filter fun g => decide (g.key ≠ Text.lower name) := by
      apply List.filter_congr
      intro e _
      rw [Function.comp_apply]
      by_cases he : e.key = f.key
      · rw [replaceWith_of_eq he, he]
      · rw [replaceWith_of_ne he]
    rw [toList_erase, toList_set_of_mem hf, toList_set_of_mem (mem_keys_erase.mpr ⟨h, hf⟩),
      toList_erase, List.filter_map, hsame]
  · have hnone : f.key ∉ (fs.erase name).keys := fun hmem => hf (mem_keys_erase.mp hmem).2
    rw [toList_erase, toList_set_of_not_mem hf, toList_set_of_not_mem hnone, List.filter_append,
      toList_erase, List.filter_cons_of_pos (by simpa using h), List.filter_nil]

end SigV4.Fields
