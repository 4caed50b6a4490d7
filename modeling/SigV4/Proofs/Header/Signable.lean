/-
  The SIGNED FIELDS while a request is signed.

  1. **Setting a field** — `set` puts a field where its key was, or at the end, and it is found there.
     What it does not keep is the field that had its key before; so whoever looks only at other keys
     sees NO CHANGE (`filter_set`, `get?_set_of_ne`).
  2. **A row of writes** — `Wrote` says which names were set, one after the other; the keys of those are there
     (`Wrote.mem_keys`), and all other fields are as before (`Wrote.filter`).
  3. **Which fields are signed** — every field but the excluded ones, once, and the host in any case
     (`mem_signedFields`, `mem_signedFields_iff_of_mem`).
  4. **Fields that are not signed** — setting one of them leaves the signed fields as they were.  A
     signature that is written into such a field does not sign itself.
-/
import Mathlib.Data.List.Nodup
import SigV4.Canonical

namespace SigV4

namespace Fields

/-! ## Setting a field -/

/-- A choice of fields that takes none with the key of `f` is the same once `f` is set. -/
theorem filter_set (fs : Fields) (f : Field) {choice : Field → Bool}
    (h : ∀ g : Field, g.key = f.key → choice g = false) :
    (fs.set f).toList.filter choice = fs.toList.filter choice := by
  unfold set
  split
  · show (fs.toList.map fun g => if g.key = f.key then f else g).filter choice = _
    generalize fs.toList = gs
    induction gs with
    | nil => rfl
    | cons g gs ih =>
      rw [List.map_cons]
      by_cases hg : g.key = f.key
      · rw [if_pos hg, List.filter_cons_of_neg (by rw [h f rfl]; decide),
          List.filter_cons_of_neg (by rw [h g hg]; decide), ih]
      · rw [if_neg hg, List.filter_cons, List.filter_cons, ih]
  · show (fs.toList ++ [f]).filter choice = _
    rw [List.filter_append, List.filter_cons_of_neg (by rw [h f rfl]; decide), List.filter_nil,
      List.append_nil]

/-- Erasing is seen only by those who look at the erased key. -/
theorem filter_erase (fs : Fields) (name : String) {choice : Field → Bool}
    (h : ∀ g : Field, g.key = Text.lower name → choice g = false) :
    (fs.erase name).toList.filter choice = fs.toList.filter choice := by
  rw [toList_erase, List.filter_filter]
  apply List.filter_congr
  intro g _
  by_cases hg : g.key = Text.lower name
  · rw [h g hg, Bool.false_and]
  · rw [decide_eq_true hg, Bool.and_true]

/-- A field that was set is found under its name. -/
theorem get?_set_self (fs : Fields) (f : Field) : (fs.set f).get? f.name = some f := by
  unfold set
  split
  · rename_i h
    show (fs.toList.map fun g => if g.key = f.key then f else g).find? (fun g => g.key = f.key) = _
    obtain ⟨e, he, hkey⟩ := List.mem_map.mp h
    generalize fs.toList = gs at he
    induction gs with
    | nil => exact nomatch he
    | cons g gs ih =>
      rw [List.map_cons]
      by_cases hg : g.key = f.key
      · rw [if_pos hg, List.find?_cons_of_pos (by simp)]
      · rw [if_neg hg, List.find?_cons_of_neg (by simpa using hg)]
        rcases List.mem_cons.mp he with rfl | he
        · exact absurd hkey hg
        · exact ih he
  · rename_i h
    show (fs.toList ++ [f]).find? (fun g => g.key = f.key) = _
    have hnone : fs.toList.find? (fun g => g.key = f.key) = none := by
      rw [List.find?_eq_none]
      intro g hg hkey
      exact h (List.mem_map.mpr ⟨g, hg, by simpa using hkey⟩)
    rw [List.find?_append, hnone, Option.none_or, List.find?_cons_of_pos (by simp)]

/-- A field that is found is the first of those with its key. -/
theorem get?_eq_head? (fs : Fields) (name : String) :
    fs.get? name = (fs.toList.filter fun g => g.key = Text.lower name).head? :=
  List.head?_filter.symm

/-- Fields of other keys are found as before. -/
theorem get?_set_of_ne (fs : Fields) {written name : String} (values : List String)
    (h : Text.lower written ≠ Text.lower name) :
    (fs.set ⟨written, values⟩).get? name = fs.get? name := by
  rw [get?_eq_head?, get?_eq_head?, filter_set]
  intro g hg
  have hkey : g.key = Text.lower written := hg
  simpa [hkey] using h

theorem get?_erase_of_ne (fs : Fields) {erased name : String}
    (h : Text.lower erased ≠ Text.lower name) : (fs.erase erased).get? name = fs.get? name := by
  rw [get?_eq_head?, get?_eq_head?, filter_erase]
  intro g hg
  simpa [hg] using h

/-- A key is there exactly if a field is found that has it. -/
theorem mem_keys_iff {fs : Fields} {key : String} :
    key ∈ fs.keys ↔ fs.toList.filter (·.key = key) ≠ [] := by
  simp [keys, List.filter_eq_nil_iff]

/-- A key is there once its field is set, or if it was there before. -/
theorem mem_keys_set {fs : Fields} {f : Field} {key : String} :
    key ∈ (fs.set f).keys ↔ key = f.key ∨ key ∈ fs.keys := by
  by_cases h : key = f.key
  · refine iff_of_true ?_ (.inl h)
    have hfound := List.mem_of_find?_eq_some (get?_set_self fs f)
    exact h ▸ List.mem_map_of_mem hfound
  · -- whoever looks for another key sees no change
    have hsame : (fs.set f).toList.filter (·.key = key) = fs.toList.filter (·.key = key) :=
      filter_set fs f fun g hg => decide_eq_false fun hkey => h (hkey.symm.trans hg)
    rw [mem_keys_iff, mem_keys_iff, hsame, or_iff_right]
    exact h

theorem mem_keys_erase {fs : Fields} {name key : String} :
    key ∈ (fs.erase name).keys ↔ key ≠ Text.lower name ∧ key ∈ fs.keys := by
  unfold keys
  rw [toList_erase, List.mem_map, List.mem_map]
  constructor
  · rintro ⟨f, hf, rfl⟩
    obtain ⟨hmem, hkey⟩ := List.mem_filter.mp hf
    exact ⟨of_decide_eq_true hkey, f, hmem, rfl⟩
  · rintro ⟨hkey, f, hmem, rfl⟩
    exact ⟨f, List.mem_filter.mpr ⟨hmem, decide_eq_true hkey⟩, rfl⟩

/-- Two fields of one key are THE SAME FIELD. -/
theorem eq_of_key_eq {fs : Fields} {f g : Field} (hf : f ∈ fs.toList) (hg : g ∈ fs.toList)
    (h : f.key = g.key) : f = g :=
  List.inj_on_of_nodup_map fs.distinct hf hg h

/-- A field is THE ONLY ONE with its key. -/
theorem filter_key {fs : Fields} {f : Field} (hf : f ∈ fs.toList) :
    fs.toList.filter (·.key = f.key) = [f] := by
  have hnodup : (fs.toList.filter (·.key = f.key)).Nodup := (fs.distinct.of_map _).filter _
  have hsame : ∀ g ∈ fs.toList.filter (·.key = f.key), g = f := fun g hg =>
    eq_of_key_eq (List.mem_filter.mp hg).1 hf (of_decide_eq_true (List.mem_filter.mp hg).2)
  have hmem : f ∈ fs.toList.filter (·.key = f.key) := List.mem_filter.mpr ⟨hf, decide_eq_true rfl⟩
  have hcount := List.count_eq_length.mpr fun g hg => (hsame g hg).symm
  rw [hnodup.count, if_pos hmem] at hcount
  obtain ⟨g, hg⟩ := List.length_eq_one_iff.mp hcount.symm
  rw [hg] at hmem ⊢
  rw [List.mem_singleton.mp hmem]

/-- A field that was set is the only one with its key. -/
theorem filter_set_self (fs : Fields) (f : Field) :
    (fs.set f).toList.filter (·.key = f.key) = [f] :=
  filter_key (List.mem_of_find?_eq_some (get?_set_self fs f))

end Fields

/-! ## A row of fields, set one after the other -/

namespace Fields

/-- `after` is `before` with fields of these names set, one after the other. -/
def Wrote (before : Fields) (names : List String) (after : Fields) : Prop :=
  ∃ written : List Field, after = written.foldl set before ∧ written.map Field.name = names

theorem Wrote.nothing (fs : Fields) : fs.Wrote [] fs := ⟨[], rfl, rfl⟩

theorem Wrote.field (fs : Fields) (f : Field) : fs.Wrote [f.name] (fs.set f) := ⟨[f], rfl, rfl⟩

theorem Wrote.append {before between after : Fields} {names more : List String}
    (h : before.Wrote names between) (h' : between.Wrote more after) :
    before.Wrote (names ++ more) after := by
  obtain ⟨written, rfl, rfl⟩ := h
  obtain ⟨written', rfl, rfl⟩ := h'
  exact ⟨written ++ written', List.foldl_append.symm, List.map_append⟩

/-- **The keys after a row of writes:** those that were there, and those of the row. -/
theorem Wrote.mem_keys {before after : Fields} {names : List String}
    (h : before.Wrote names after) {key : String} :
    key ∈ after.keys ↔ key ∈ before.keys ∨ key ∈ names.map Text.lower := by
  obtain ⟨written, rfl, rfl⟩ := h
  induction written generalizing before with
  | nil => simp
  | cons f written ih =>
    rw [List.foldl_cons, ih, mem_keys_set, List.map_cons, List.map_cons, List.mem_cons]
    exact or_assoc.trans or_left_comm

/-- **Fields of other keys are as before.** -/
theorem Wrote.filter {before after : Fields} {names : List String} (h : before.Wrote names after)
    {choice : Field → Bool} (hchoice : ∀ g : Field, g.key ∈ names.map Text.lower → choice g = false) :
    after.toList.filter choice = before.toList.filter choice := by
  obtain ⟨written, rfl, rfl⟩ := h
  induction written generalizing before with
  | nil => rfl
  | cons f written ih =>
    rw [List.foldl_cons, ih fun g hg => hchoice g (List.mem_cons_of_mem _ hg)]
    refine filter_set before f fun g hg => hchoice g ?_
    rw [hg]
    exact List.mem_cons_self

end Fields

/-! ## Which fields are signed -/

theorem mem_signable {fields : Fields} {entry : String × String} :
    entry ∈ signable fields
      ↔ ∃ f ∈ fields.toList, f.key ∉ excludedKeys ∧ entry = (f.key, canonicalValue f) := by
  unfold signable
  rw [List.mem_map]
  constructor
  · rintro ⟨f, hf, rfl⟩
    obtain ⟨hmem, hkey⟩ := List.mem_filter.mp hf
    exact ⟨f, hmem, of_decide_eq_true hkey, rfl⟩
  · rintro ⟨f, hmem, hkey, rfl⟩
    exact ⟨f, List.mem_filter.mpr ⟨hmem, decide_eq_true hkey⟩, rfl⟩

/-- The host is implied only where no field names it. -/
theorem mem_impliedHost {fields : Fields} {a : Address} {entry : String × String} :
    entry ∈ impliedHost fields a
      ↔ (∀ other ∈ signable fields, other.1 ≠ "host") ∧ entry = ("host", hostValue a) := by
  unfold impliedHost
  by_cases h : (signable fields).any (·.1 = "host") = true
  · rw [if_pos h]
    obtain ⟨other, hother, hkey⟩ := List.any_eq_true.mp h
    exact iff_of_false List.not_mem_nil fun hnone => hnone.1 other hother (of_decide_eq_true hkey)
  · rw [if_neg h, List.mem_singleton]
    have hnone : ∀ other ∈ signable fields, other.1 ≠ "host" := by
      intro other hother hkey
      exact h (List.any_eq_true.mpr ⟨other, hother, decide_eq_true hkey⟩)
    exact (and_iff_right hnone).symm

/-- **What is signed** are the fields that may be signed, and the host if none of them names it. -/
theorem mem_signedFields {fields : Fields} {a : Address} {entry : String × String} :
    entry ∈ signedFields fields a ↔ entry ∈ signable fields ∨ entry ∈ impliedHost fields a := by
  unfold signedFields
  rw [List.mem_mergeSort, List.mem_append]

/-- **A field that may be signed is signed WITH ITS CANONICAL VALUE,** and with no other. -/
theorem mem_signedFields_iff_of_mem {fields : Fields} {f : Field} (hf : f ∈ fields.toList)
    (hs : f.key ∉ excludedKeys) (a : Address) (value : String) :
    (f.key, value) ∈ signedFields fields a ↔ value = canonicalValue f := by
  have hsignable : (f.key, canonicalValue f) ∈ signable fields := mem_signable.mpr ⟨f, hf, hs, rfl⟩
  rw [mem_signedFields]
  constructor
  · rintro (h | h)
    · obtain ⟨g, hg, -, hentry⟩ := mem_signable.mp h
      obtain ⟨hkey, rfl⟩ := Prod.mk.inj hentry
      rw [Fields.eq_of_key_eq hf hg hkey]
    · obtain ⟨hnone, hentry⟩ := mem_impliedHost.mp h
      exact absurd (Prod.mk.inj hentry).1 (hnone _ hsignable)
  · rintro rfl
    exact .inl hsignable

/-! ## Fields that are not signed -/

theorem signable_set {f : Field} (h : f.key ∈ excludedKeys) (fs : Fields) :
    signable (fs.set f) = signable fs := by
  have hchoice : ∀ g : Field, g.key = f.key → decide (g.key ∉ excludedKeys) = false := by
    intro g hg
    simp [hg, h]
  rw [signable, fs.filter_set f hchoice, signable]

/-- **A field that is not signed can be set afterwards.** -/
theorem signedFields_set {f : Field} (h : f.key ∈ excludedKeys) (fs : Fields) (a : Address) :
    signedFields (fs.set f) a = signedFields fs a := by
  rw [signedFields, impliedHost, signable_set h, signedFields, impliedHost]

end SigV4
