/-
  THE HISTORY of a collection of fields: what becomes of it, one change after the other.

  1. **One change** — `FieldsChange.Acts` says all that a change can do: something in the place of the field with
     its key, or something at the end if there is none.  What stands before and behind that place stays.
  2. **A choice of keys** — whoever looks at some of the keys sees what a change does under one of them, and sees
     nothing of any other (`only_after`, `only_after_of_not`).
  3. **Many changes** — so what the fields under some keys are, and in which order, is what the history OF THOSE KEYS
     alone makes of them, from the first field that was given to the last change (`multimap_afterAll`).

  The crux is that a change asks about no key but its own, not even to find out whether it fails: a row without the
  other fields is changed in the same way (`Acts.filter`), and in one way only (`Acts.unique`).
-/
import SigV4.Header.Change
import SigV4.Proofs.Header.Again
import SigV4.Proofs.Header.Gathering
import SigV4.Proofs.Header.Meaning

namespace SigV4

/-! ## One change -/

namespace FieldsChange

/-- What a change leaves in the place of the field with its key. -/
def inPlace : FieldsChange → Field → List Field
  | set f, _ => [f]
  | erase _, _ => []
  | add _ value, e => [e.add value]

/-- What a change puts at the end where no field has its key. -/
def atEnd : FieldsChange → Except Fault (List Field)
  | set f => .ok [f]
  | erase _ => .ok []
  | add _ _ => .error .noSuchField

/-- **All that a change can do** to a row of fields. -/
inductive Acts (change : FieldsChange) : List Field → Except Fault (List Field) → Prop where
  | there (front : List Field) (e : Field) (back : List Field) (here : e.key = change.key)
      (others : ∀ g ∈ front ++ back, g.key ≠ change.key) :
      Acts change (front ++ e :: back) (.ok (front ++ change.inPlace e ++ back))
  | absent (row : List Field) (others : ∀ g ∈ row, g.key ≠ change.key) :
      Acts change row (change.atEnd.map (row ++ ·))

variable {change : FieldsChange} {row : List Field}

/-- What a change leaves, or puts at the end, has ITS KEY. -/
theorem key_of_mem_inPlace {e g : Field} (he : e.key = change.key) (hg : g ∈ change.inPlace e) :
    g.key = change.key := by
  cases change with
  | set f =>
    obtain rfl : g = f := List.mem_singleton.mp hg
    rfl
  | erase name => exact nomatch hg
  | add name value =>
    obtain rfl : g = e.add value := List.mem_singleton.mp hg
    exact he

theorem key_of_atEnd {added : List Field} (h : change.atEnd = .ok added) :
    ∀ g ∈ added, g.key = change.key := by
  intro g hg
  cases change with
  | set f =>
    obtain rfl : [f] = added := Except.ok.inj h
    obtain rfl : g = f := List.mem_singleton.mp hg
    rfl
  | erase name =>
    obtain rfl : [] = added := Except.ok.inj h
    exact nomatch hg
  | add name value => exact nomatch h

/-- A row has ONE PLACE at most for a key. -/
theorem place_unique {key : String} {front back front' back' : List Field} {e e' : Field}
    (he : e.key = key) (others : ∀ g ∈ front ++ back, g.key ≠ key)
    (he' : e'.key = key) (others' : ∀ g ∈ front' ++ back', g.key ≠ key)
    (h : front ++ e :: back = front' ++ e' :: back') : front = front' ∧ e = e' ∧ back = back' := by
  have hfront {before behind : List Field} {g : Field} (hg : g.key = key)
      (hbefore : ∀ g ∈ before ++ behind, g.key ≠ key) :
      (before ++ g :: behind).takeWhile (·.key ≠ key) = before := by
    rw [List.takeWhile_append_of_pos fun g' hg' =>
        decide_eq_true (hbefore g' (List.mem_append_left _ hg')),
      List.takeWhile_cons_of_neg (by simpa using hg), List.append_nil]
  have hsame : front = front' := by
    rw [← hfront he others, h, hfront he' others']
  subst hsame
  obtain ⟨rfl, rfl⟩ := List.cons.inj (List.append_cancel_left h)
  exact ⟨rfl, rfl, rfl⟩

/-- A change can do ONE THING to a row. -/
theorem Acts.unique {result result' : Except Fault (List Field)} (h : change.Acts row result)
    (h' : change.Acts row result') : result = result' := by
  cases h with
  | there front e back here others =>
    generalize hrow : front ++ e :: back = whole at h'
    cases h' with
    | there front' e' back' here' others' =>
      obtain ⟨rfl, rfl, rfl⟩ := place_unique here others here' others' hrow
      rfl
    | absent _ none =>
      subst hrow
      exact absurd here (none e (List.mem_append_right _ List.mem_cons_self))
  | absent _ none =>
    cases h' with
    | there front e back here others =>
      exact absurd here (none e (List.mem_append_right _ List.mem_cons_self))
    | absent _ _ => rfl

variable {chosen : String → Bool}

theorem filter_of_chosen {added : List Field} {key : String} (hkey : chosen key = true)
    (h : ∀ g ∈ added, g.key = key) : added.filter (fun g => chosen g.key) = added := by
  rw [List.filter_eq_self]
  intro g hg
  rw [h g hg, hkey]

theorem filter_of_not_chosen {added : List Field} {key : String} (hkey : chosen key = false)
    (h : ∀ g ∈ added, g.key = key) : added.filter (fun g => chosen g.key) = [] := by
  rw [List.filter_eq_nil_iff]
  intro g hg
  rw [h g hg, hkey]
  exact Bool.false_ne_true

/-- What a change does under a chosen key, it does BEHIND THE CHOICE as well. -/
theorem Acts.filter {result : Except Fault (List Field)} (h : change.Acts row result)
    (hkey : chosen change.key = true) :
    change.Acts (row.filter fun g => chosen g.key)
      (result.map (List.filter fun g => chosen g.key)) := by
  have hothers {part : List Field} (h : ∀ g ∈ part, g.key ≠ change.key) :
      ∀ g ∈ part.filter (fun g => chosen g.key), g.key ≠ change.key :=
    fun g hg => h g (List.mem_filter.mp hg).1
  cases h with
  | there front e back here others =>
    have hplace := filter_of_chosen hkey fun g hg => key_of_mem_inPlace here hg
    have hentry : chosen e.key = true := here ▸ hkey
    rw [Except.map, List.filter_append, List.filter_append, List.filter_append, hplace,
      List.filter_cons, if_pos hentry]
    refine .there _ e _ here ?_
    rw [← List.filter_append]
    exact hothers others
  | absent _ none =>
    have hend : (change.atEnd.map (row ++ ·)).map (List.filter fun g => chosen g.key)
        = change.atEnd.map ((row.filter fun g => chosen g.key) ++ ·) := by
      cases hadded : change.atEnd with
      | error fault => rfl
      | ok added =>
        rw [Except.map, Except.map, Except.map, List.filter_append,
          filter_of_chosen hkey (key_of_atEnd hadded)]
    rw [hend]
    exact .absent _ (hothers none)

/-- What a change does under another key is NOT SEEN. -/
theorem Acts.unseen {changed : List Field} (h : change.Acts row (.ok changed))
    (hkey : chosen change.key = false) :
    changed.filter (fun g => chosen g.key) = row.filter fun g => chosen g.key := by
  generalize hresult : Except.ok changed = result at h
  cases h with
  | there front e back here others =>
    obtain rfl := Except.ok.inj hresult
    have hplace := filter_of_not_chosen hkey fun g hg => key_of_mem_inPlace here hg
    have hentry : chosen e.key = false := here ▸ hkey
    rw [List.filter_append, List.filter_append, List.filter_append, hplace, List.filter_cons, hentry,
      List.append_nil]
    rfl
  | absent _ none =>
    cases hadded : change.atEnd with
    | error fault =>
      rw [hadded] at hresult
      exact nomatch hresult
    | ok added =>
      rw [hadded] at hresult
      obtain rfl := Except.ok.inj hresult
      rw [List.filter_append, filter_of_not_chosen hkey (key_of_atEnd hadded), List.append_nil]

end FieldsChange

namespace Fields

/-- Where one field of a row has a key, changing the fields of that key changes THAT FIELD. -/
theorem map_of_others {front back : List Field} {e : Field} {key : String} (he : e.key = key)
    (others : ∀ g ∈ front ++ back, g.key ≠ key) (change : Field → Field) :
    (front ++ e :: back).map (fun g => if g.key = key then change g else g)
      = front ++ change e :: back := by
  have hkept {row : List Field} (h : ∀ g ∈ row, g.key ≠ key) :
      row.map (fun g => if g.key = key then change g else g) = row := by
    conv_rhs => rw [← List.map_id row]
    exact List.map_congr_left fun g hg => if_neg (h g hg)
  rw [List.map_append, List.map_cons, if_pos he,
    hkept fun g hg => others g (List.mem_append_left _ hg),
    hkept fun g hg => others g (List.mem_append_right _ hg)]

/-- The field with a key, and the others before and behind it. -/
theorem exists_others {fs : Fields} {key : String} (h : key ∈ fs.keys) :
    ∃ front e back, fs.toList = front ++ e :: back ∧ e.key = key
      ∧ ∀ g ∈ front ++ back, g.key ≠ key := by
  obtain ⟨e, he, rfl⟩ := List.mem_map.mp h
  obtain ⟨front, back, hlist⟩ := List.append_of_mem he
  refine ⟨front, e, back, hlist, rfl, ?_⟩
  have hdistinct := fs.distinct
  rw [hlist, List.map_append, List.map_cons, List.nodup_middle, List.nodup_cons,
    ← List.map_append] at hdistinct
  intro g hg hkey
  exact hdistinct.1 (hkey ▸ List.mem_map_of_mem hg)

theorem contains_iff {fs : Fields} {name : String} :
    fs.contains name = true ↔ Text.lower name ∈ fs.keys := by
  rw [contains, get?, List.find?_isSome, keys, List.mem_map]
  simp only [decide_eq_true_eq]

/-- What a change does where its key is there. -/
theorem apply_there {fs : Fields} {change : FieldsChange} {front back : List Field} {e : Field}
    (hlist : fs.toList = front ++ e :: back) (he : e.key = change.key)
    (others : ∀ g ∈ front ++ back, g.key ≠ change.key) :
    (fs.apply change).map toList = .ok (front ++ change.inPlace e ++ back) := by
  have hkey : change.key ∈ fs.keys := by
    rw [keys, hlist, ← he]
    exact List.mem_map_of_mem (List.mem_append_right _ List.mem_cons_self)
  rw [List.append_assoc]
  cases change with
  | set f =>
    rw [apply, Except.map, toList_set_of_mem hkey, hlist]
    exact congrArg Except.ok (map_of_others he others fun _ => f)
  | erase name =>
    have hname : e.key = Text.lower name := he
    have hkept {row : List Field} (h : ∀ g ∈ row, g.key ≠ Text.lower name) :
        (row.filter fun g => g.key ≠ Text.lower name) = row :=
      List.filter_eq_self.mpr fun g hg => decide_eq_true (h g hg)
    rw [apply, Except.map, toList_erase, hlist, List.filter_append,
      List.filter_cons_of_neg (by simpa using hname),
      hkept fun g hg => others g (List.mem_append_left _ hg),
      hkept fun g hg => others g (List.mem_append_right _ hg)]
    rfl
  | add name value =>
    rw [apply, addValue?, if_pos (contains_iff.mpr hkey)]
    show Except.ok (fs.toList.map _) = _
    rw [hlist]
    exact congrArg Except.ok (map_of_others he others (·.add value))

/-- What a change does where its key is not there. -/
theorem apply_absent {fs : Fields} {change : FieldsChange} (h : change.key ∉ fs.keys) :
    (fs.apply change).map toList = change.atEnd.map (fs.toList ++ ·) := by
  cases change with
  | set f =>
    rw [apply, Except.map, toList_set_of_not_mem h]
    rfl
  | erase name =>
    rw [apply, Except.map, erase_of_not_mem h]
    exact congrArg Except.ok (List.append_nil _).symm
  | add name value =>
    rw [apply, addValue?, if_neg fun hmem => h (contains_iff.mp hmem)]
    rfl

/-- **A change acts on the field with its key,** in its place, or at the end if there is none. -/
theorem apply_acts (fs : Fields) (change : FieldsChange) :
    change.Acts fs.toList ((fs.apply change).map toList) := by
  by_cases h : change.key ∈ fs.keys
  · obtain ⟨front, e, back, hlist, he, hothers⟩ := exists_others h
    rw [apply_there hlist he hothers, hlist]
    exact .there front e back he hothers
  · rw [apply_absent h]
    exact .absent fs.toList fun g hg hkey => h (hkey ▸ List.mem_map_of_mem hg)

/-! ## Many changes -/

/-- The fields after a change; one that fails leaves them as they are. -/
def after (fs : Fields) (change : FieldsChange) : Fields :=
  match fs.apply change with
  | .ok changed => changed
  | .error _ => fs

/-- **The fields after a row of changes.** -/
def afterAll (fs : Fields) (changes : List FieldsChange) : Fields := changes.foldl after fs

/-- The fields with the keys that are chosen. -/
def only (fs : Fields) (chosen : String → Bool) : Fields where
  toList := fs.toList.filter fun f => chosen f.key
  distinct := (List.filter_sublist.map _).nodup fs.distinct

theorem mem_keys_only {fs : Fields} {chosen : String → Bool} {key : String} :
    key ∈ (fs.only chosen).keys ↔ chosen key = true ∧ key ∈ fs.keys := by
  have hfilter : (fs.only chosen).keys = fs.keys.filter chosen := List.filter_map.symm
  rw [hfilter, List.mem_filter]
  exact and_comm

variable {chosen : String → Bool}

/-- A change under a chosen key may come BEFORE OR BEHIND THE CHOICE. -/
theorem only_after (fs : Fields) {change : FieldsChange} (h : chosen change.key = true) :
    (fs.after change).only chosen = (fs.only chosen).after change := by
  have hsame := ((apply_acts fs change).filter h).unique (apply_acts (fs.only chosen) change)
  apply ext
  show (fs.after change).toList.filter _ = _
  unfold after
  cases hwhole : fs.apply change with
  | ok changed =>
    cases hpart : (fs.only chosen).apply change with
    | ok changed' =>
      rw [hwhole, hpart] at hsame
      exact Except.ok.inj hsame
    | error fault =>
      rw [hwhole, hpart] at hsame
      exact nomatch hsame
  | error fault =>
    cases hpart : (fs.only chosen).apply change with
    | ok changed' =>
      rw [hwhole, hpart] at hsame
      exact nomatch hsame
    | error fault => rfl

/-- A change under another key LEAVES NO TRACE. -/
theorem only_after_of_not (fs : Fields) {change : FieldsChange} (h : chosen change.key = false) :
    (fs.after change).only chosen = fs.only chosen := by
  have hacts := apply_acts fs change
  apply ext
  show (fs.after change).toList.filter _ = _
  unfold after
  cases hwhole : fs.apply change with
  | ok changed =>
    rw [hwhole] at hacts
    exact hacts.unseen h
  | error fault => rfl

/-- **Of all changes, those under the chosen keys** are what the chosen fields show. -/
theorem only_afterAll (fs : Fields) (changes : List FieldsChange) :
    (fs.afterAll changes).only chosen
      = (fs.only chosen).afterAll (changes.filter fun change => chosen change.key) := by
  induction changes generalizing fs with
  | nil => rfl
  | cons change changes ih =>
    show ((fs.after change).afterAll changes).only chosen = _
    rw [ih]
    by_cases h : chosen change.key = true
    · rw [only_after fs h, List.filter_cons, if_pos h]
      rfl
    · rw [only_after_of_not fs (Bool.eq_false_iff.mpr h), List.filter_cons, if_neg h]

/-- Merging into the fields keeps their keys, so the choice is the same before and behind it. -/
theorem filter_map_mergeInto (f : Field) (row : List Field) :
    (row.map (mergeInto f)).filter (fun g => chosen g.key)
      = (row.filter fun g => chosen g.key).map (mergeInto f) := by
  have hsame : row.filter ((fun g => chosen g.key) ∘ mergeInto f) = row.filter fun g => chosen g.key := by
    apply List.filter_congr
    intro e _
    rw [Function.comp_apply, key_mergeInto]
  rw [List.filter_map, hsame]

theorem only_merge (fs : Fields) {f : Field} (h : chosen f.key = true) :
    (fs.merge f).only chosen = (fs.only chosen).merge f := by
  apply ext
  show (fs.merge f).toList.filter _ = _
  by_cases hf : f.key ∈ fs.keys
  · rw [toList_merge_of_mem hf, toList_merge_of_mem (mem_keys_only.mpr ⟨h, hf⟩)]
    exact filter_map_mergeInto f fs.toList
  · have hnone : f.key ∉ (fs.only chosen).keys := fun hmem => hf (mem_keys_only.mp hmem).2
    rw [toList_merge_of_not_mem hf, toList_merge_of_not_mem hnone, List.filter_append,
      List.filter_singleton, h]
    rfl

theorem only_merge_of_not (fs : Fields) {f : Field} (h : chosen f.key = false) :
    (fs.merge f).only chosen = fs.only chosen := by
  apply ext
  show (fs.merge f).toList.filter _ = fs.toList.filter _
  by_cases hf : f.key ∈ fs.keys
  · rw [toList_merge_of_mem hf, filter_map_mergeInto]
    conv_rhs => rw [← List.map_id (fs.toList.filter _)]
    apply List.map_congr_left
    intro e he
    -- a field that is chosen has not the key of `f`
    refine if_neg fun hkey => ?_
    have hchosen := (List.mem_filter.mp he).2
    rw [hkey, h] at hchosen
    exact Bool.false_ne_true hchosen
  · rw [toList_merge_of_not_mem hf, List.filter_append, List.filter_singleton, h]
    exact List.append_nil _

/-- The chosen fields of a collection are what the chosen ones of the list make. -/
theorem only_ofList (given : List Field) :
    (ofList given).only chosen = ofList (given.filter fun f => chosen f.key) := by
  have hfoldl (fs : Fields) : (given.foldl merge fs).only chosen
      = (given.filter fun f => chosen f.key).foldl merge (fs.only chosen) := by
    induction given generalizing fs with
    | nil => rfl
    | cons f given ih =>
      rw [List.foldl_cons, ih]
      by_cases h : chosen f.key = true
      · rw [only_merge fs h, List.filter_cons, if_pos h]
        rfl
      · rw [only_merge_of_not fs (Bool.eq_false_iff.mpr h), List.filter_cons, if_neg h]
  exact hfoldl empty

/-- A field is found under a name IF AND ONLY IF it is there and has a name that is the same in lower case. -/
theorem get?_eq_some_iff {fs : Fields} {name : String} {f : Field} :
    fs.get? name = some f ↔ f ∈ fs.toList ∧ Text.lower f.name = Text.lower name := by
  refine ⟨get?_eq_some, ?_⟩
  rintro ⟨hmem, hname⟩
  rw [← get?_congr fs hname]
  exact get?_of_mem hmem

/-- **An ordered multimap whose names ignore letter case:** the names differ in lower case, a field is found under
every spelling of its name and under no other name, and a change acts on the field with its key alone, in its
place, or at the end if there is none. -/
structure Multimap (fs : Fields) : Prop where
  distinct : (fs.toList.map fun f => Text.lower f.name).Nodup
  found : ∀ name f, fs.get? name = some f ↔ f ∈ fs.toList ∧ Text.lower f.name = Text.lower name
  acts : ∀ change : FieldsChange, change.Acts fs.toList ((fs.apply change).map toList)

/-- **FIELDS ARE AN ORDERED MULTIMAP,** whatever they are made of and whatever was changed since.  They are made
in the order of the first occurrences, with the first name and all values of each key; and what some keys show,
at whatever time, is what their own history makes of them. -/
theorem multimap_afterAll (given : List Field) (changes : List FieldsChange) :
    (ofList given).Gathers given
      ∧ ((ofList given).afterAll changes).Multimap
      ∧ ∀ chosen : String → Bool,
          ((ofList given).afterAll changes).only chosen
            = (ofList (given.filter fun f => chosen f.key)).afterAll
                (changes.filter fun change => chosen change.key) := by
  let fs := (ofList given).afterAll changes
  have hmultimap : fs.Multimap := {
    distinct := fs.distinct
    found := fun _ _ => get?_eq_some_iff
    acts := apply_acts fs }
  refine ⟨gathers_ofList given, hmultimap, fun chosen => ?_⟩
  rw [only_afterAll, only_ofList]

/-- The Kelvin sign is a `k` in lower case.  What is set keeps its place, what is erased and set again goes to the
end, and a value under a name that is not there changes nothing. -/
example :
    ((ofList [⟨"X-Kind", ["a"]⟩, ⟨"Date", ["d"]⟩, ⟨"x-\u212Aind", ["b", "c"]⟩, ⟨"Via", []⟩]).afterAll
        [.set ⟨"DATE", ["e"]⟩, .add "Host" "h", .erase "x-kind", .set ⟨"X-\u212Aind", ["f"]⟩, .add "X-Kind" "g"]).toList
      = [⟨"DATE", ["e"]⟩, ⟨"Via", []⟩, ⟨"X-\u212Aind", ["f", "g"]⟩] := by
  decide +kernel

end Fields

end SigV4
