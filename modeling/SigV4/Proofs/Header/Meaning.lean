/-
  The MEANING of header fields, as far as it is signed.

  1. **Meaning** — two collections of fields mean the same if they have the same values under every name
     that may be signed (`Fields.SameMeaning`).  The order, the letter case and the excluded fields are not
     part of it.
  2. **Spelling** — fields whose names differ in the case of ASCII letters only, in whatever order, mean
     the same (`sameMeaning_of_spellings`).
  3. **Writing** — what is set or erased in both keeps them so (`SameMeaning.set`, `SameMeaning.erase`).
  4. **Signing** — and they are SIGNED ALIKE (`SameMeaning.signedFields_eq`): as no key is signed twice, the signed
     fields have one sorted form.
-/
import SigV4.Proofs.Header.Names
import SigV4.Proofs.Text.Letters

namespace SigV4

namespace Fields

/-! ## Meaning -/

/-- The values under a name, if there is a field under it. -/
def valuesOf? (fs : Fields) (name : String) : Option (List String) := (fs.get? name).map Field.values

/-- **Fields that mean the same:** they have the same values under every name that may be signed. -/
def SameMeaning (fs gs : Fields) : Prop :=
  ∀ name, Text.lower name ∉ excludedKeys → fs.valuesOf? name = gs.valuesOf? name

variable {fs gs : Fields}

theorem SameMeaning.symm (h : fs.SameMeaning gs) : gs.SameMeaning fs :=
  fun name hname => (h name hname).symm

/-- A field is found under EVERY spelling of its name. -/
theorem get?_congr (fs : Fields) {name other : String} (h : Text.lower name = Text.lower other) :
    fs.get? name = fs.get? other := by
  unfold get?
  rw [h]

/-- A field is found under its name. -/
theorem get?_of_mem {f : Field} (h : f ∈ fs.toList) : fs.get? f.name = some f := by
  have hfound : fs.toList.filter (fun g => g.key = Text.lower f.name) = [f] := filter_key h
  rw [get?_eq_head?, hfound]
  rfl

theorem get?_eq_some {name : String} {f : Field} (h : fs.get? name = some f) :
    f ∈ fs.toList ∧ f.key = Text.lower name := by
  have hkey := List.find?_some h
  exact ⟨List.mem_of_find?_eq_some h, of_decide_eq_true hkey⟩

/-- What is erased is NOT FOUND. -/
theorem get?_erase_self (fs : Fields) {erased name : String}
    (h : Text.lower erased = Text.lower name) : (fs.erase erased).get? name = none := by
  unfold get?
  rw [List.find?_eq_none]
  intro f hf hkey
  have hkept := of_decide_eq_true (List.mem_filter.mp hf).2
  exact hkept ((of_decide_eq_true hkey).trans h.symm)

/-! ## Spelling -/

/-- The fields that may be signed: their names without the case of ASCII letters, and their values. -/
def spellings (fs : Fields) : List (List Char × List String) :=
  (fs.toList.filter (·.key ∉ excludedKeys)).map fun f => (f.name.toList.map Char.toLower, f.values)

/-- A field that is found has its counterpart where the same spellings are. -/
theorem exists_get?_of_spellings (h : fs.spellings ⊆ gs.spellings)
    {name : String} (hname : Text.lower name ∉ excludedKeys) {f : Field} (hf : fs.get? name = some f) :
    ∃ g, gs.get? name = some g ∧ g.values = f.values := by
  obtain ⟨hmem, hkey⟩ := get?_eq_some hf
  have hspelled : (f.name.toList.map Char.toLower, f.values) ∈ fs.spellings := by
    refine List.mem_map.mpr ⟨f, List.mem_filter.mpr ⟨hmem, ?_⟩, rfl⟩
    rw [hkey]
    exact decide_eq_true hname
  obtain ⟨g, hg, hsame⟩ := List.mem_map.mp (h hspelled)
  obtain ⟨hletters, hvalues⟩ := Prod.mk.inj hsame
  have hlower : Text.lower g.name = Text.lower name := (Text.lower_eq_of_toLower hletters).trans hkey
  refine ⟨g, ?_, hvalues⟩
  rw [← get?_congr gs hlower]
  exact get?_of_mem (List.mem_filter.mp hg).1

/-- **Fields that are spelled in another way,** in another order, and beside other excluded ones, mean the
same. -/
theorem sameMeaning_of_spellings (h : gs.spellings.Perm fs.spellings) : fs.SameMeaning gs := by
  intro name hname
  unfold valuesOf?
  cases hf : fs.get? name with
  | some f =>
    obtain ⟨g, hg, hvalues⟩ := exists_get?_of_spellings h.symm.subset hname hf
    rw [hg]
    exact congrArg some hvalues.symm
  | none =>
    cases hg : gs.get? name with
    | some g =>
      obtain ⟨f, hfound, -⟩ := exists_get?_of_spellings h.subset hname hg
      exact nomatch hf.symm.trans hfound
    | none => rfl

/-! ## Writing -/

/-- What is SET IN BOTH means the same in both. -/
theorem SameMeaning.set (h : fs.SameMeaning gs) (f : Field) : (fs.set f).SameMeaning (gs.set f) := by
  obtain ⟨written, values⟩ := f
  intro name hname
  unfold valuesOf?
  by_cases hkey : Text.lower name = Text.lower written
  · have hfound (hs : Fields) : (hs.set ⟨written, values⟩).get? name = some ⟨written, values⟩ :=
      (get?_congr _ hkey).trans (get?_set_self hs ⟨written, values⟩)
    rw [hfound, hfound]
  · rw [get?_set_of_ne fs values (Ne.symm hkey), get?_set_of_ne gs values (Ne.symm hkey)]
    exact h name hname

theorem SameMeaning.erase (h : fs.SameMeaning gs) (erased : String) :
    (fs.erase erased).SameMeaning (gs.erase erased) := by
  intro name hname
  unfold valuesOf?
  by_cases hkey : Text.lower erased = Text.lower name
  · rw [get?_erase_self fs hkey, get?_erase_self gs hkey]
  · rw [get?_erase_of_ne fs hkey, get?_erase_of_ne gs hkey]
    exact h name hname

/-! ## Signing -/

/-- What may be signed of the one may be signed of the other. -/
theorem SameMeaning.signable_subset (h : fs.SameMeaning gs) {entry : String × String}
    (hentry : entry ∈ signable fs) : entry ∈ signable gs := by
  obtain ⟨f, hf, hkey, rfl⟩ := mem_signable.mp hentry
  have hvalues := h f.name hkey
  unfold valuesOf? at hvalues
  rw [get?_of_mem hf] at hvalues
  obtain ⟨g, hg, hsame⟩ := Option.map_eq_some_iff.mp hvalues.symm
  obtain ⟨hmem, hkey'⟩ := get?_eq_some hg
  have hcanonical : canonicalValue g = canonicalValue f := by
    unfold canonicalValue
    rw [hsame]
  have hkeys : g.key = f.key := hkey'
  refine mem_signable.mpr ⟨g, hmem, hkeys ▸ hkey, ?_⟩
  rw [hkeys, hcanonical]

theorem nodup_signable (fs : Fields) : (signable fs).Nodup := by
  have hkeys : ((signable fs).map Prod.fst).Nodup := by
    rw [keys_signable]
    exact fs.distinct.filter _
  exact hkeys.of_map _

/-- **FIELDS THAT MEAN THE SAME ARE SIGNED ALIKE,** at addresses with one host. -/
theorem SameMeaning.signedFields_eq (h : fs.SameMeaning gs) {a b : Address}
    (hhost : hostValue a = hostValue b) : signedFields fs a = signedFields gs b := by
  have hsignable : (signable fs).Perm (signable gs) := by
    rw [List.perm_ext_iff_of_nodup (nodup_signable fs) (nodup_signable gs)]
    intro entry
    exact ⟨h.signable_subset, h.symm.signable_subset⟩
  have himplied : impliedHost fs a = impliedHost gs b := by
    unfold impliedHost
    rw [hsignable.any_eq, hhost]
  have hperm : (signedFields fs a).Perm (signedFields gs b) := by
    refine ((List.mergeSort_perm _ _).trans ?_).trans (List.mergeSort_perm _ _).symm
    rw [himplied]
    exact hsignable.append_right _
  have hsorted (hs : Fields) (c : Address) : (signedFields hs c).Pairwise
      fun x y => Text.inOrder x.1.toList y.1.toList = true :=
    (List.pairwise_map.mp (pairwise_signedNames hs c)).imp And.left
  refine hperm.eq_of_pairwise ?_ (hsorted fs a) (hsorted gs b)
  -- names that stand before each other are one name, and no name is signed twice
  intro x y hx hy hxy hyx
  have hname : x.1 = y.1 := String.toList_inj.mp (Text.inOrder_antisymm hxy hyx)
  exact List.inj_on_of_nodup_map (nodup_signedNames fs a) hx (hperm.symm.subset hy) hname

end Fields

end SigV4
