/-
  The NAMES of the signed fields.

  1. **Order** — the signed fields are sorted, and no key occurs twice, so their names strictly INCREASE
     (`pairwise_signedNames`).
  2. **Coverage** — a name is signed exactly if it is the host's, or the key of a field that may be signed
     (`mem_signedNames`).  A key is in lower case, and stays what it is if it is lowered again.

  `signedNames_protect` puts them together.  The crux is that `host` comes from two places: from a field, or from
  the address if there is no such field, and never from both.
-/
import SigV4.Proofs.Header.Signable
import SigV4.Proofs.Text.Case

namespace SigV4

/-- One text stands before another, by code points. -/
def Text.Before (s t : String) : Prop := inOrder s.toList t.toList = true ∧ s ≠ t

/-- The names of the signed fields of a request, in the order in which they are signed. -/
def signedNames (fields : Fields) (a : Address) : List String := (signedFields fields a).map Prod.fst

/-- **Names that protect fields:** sorted and without repetition, in lower case, `host` in any case, and
beside it the keys of all fields but the excluded ones. -/
structure Protects (names : List String) (fields : Fields) : Prop where
  increasing : names.Pairwise Text.Before
  lowered : ∀ name ∈ names, Text.lower name = name
  host : "host" ∈ names
  exact : ∀ name, name ∈ names ↔ name = "host" ∨ name ∉ excludedKeys ∧ name ∈ fields.keys

/-! ## Order -/

theorem keys_signable (fields : Fields) :
    (signable fields).map Prod.fst = fields.keys.filter (· ∉ excludedKeys) := by
  rw [signable, List.map_map, Fields.keys, List.filter_map]
  rfl

/-- No key is signed TWICE. -/
theorem nodup_signedNames (fields : Fields) (a : Address) : (signedNames fields a).Nodup := by
  have hperm : (signedNames fields a).Perm ((signable fields ++ impliedHost fields a).map Prod.fst) :=
    (List.mergeSort_perm _ _).map Prod.fst
  have hkeys : ((signable fields).map Prod.fst).Nodup := by
    rw [keys_signable]
    exact fields.distinct.filter _
  rw [hperm.nodup_iff, List.map_append, List.nodup_append]
  refine ⟨hkeys, ?_, ?_⟩
  · unfold impliedHost
    split
    · exact List.nodup_nil
    · exact List.nodup_singleton "host"
  · -- the host is implied only where it is no key
    intro key hkey name hname
    obtain ⟨entry, hentry, rfl⟩ := List.mem_map.mp hkey
    obtain ⟨implied, himplied, rfl⟩ := List.mem_map.mp hname
    obtain ⟨hnone, rfl⟩ := mem_impliedHost.mp himplied
    exact hnone entry hentry

/-- **The names of the signed fields strictly increase.** -/
theorem pairwise_signedNames (fields : Fields) (a : Address) :
    (signedNames fields a).Pairwise Text.Before := by
  let le (x y : String × String) : Bool := Text.inOrder x.1.toList y.1.toList
  have htrans (x y z : String × String) (h : le x y = true) (h' : le y z = true) : le x z = true :=
    Text.inOrder_trans h h'
  have htotal (x y : String × String) : (le x y || le y x) = true :=
    Text.inOrder_total x.1.toList y.1.toList
  have hsorted : (signedFields fields a).Pairwise fun x y => le x y = true :=
    List.pairwise_mergeSort htrans htotal _
  have hdistinct := List.pairwise_map.mp (nodup_signedNames fields a)
  exact List.pairwise_map.mpr (hsorted.and hdistinct)

/-! ## Coverage -/

/-- **A NAME IS SIGNED** exactly if it is the host's, or the key of a field that may be signed. -/
theorem mem_signedNames {fields : Fields} {a : Address} {name : String} :
    name ∈ signedNames fields a ↔ name = "host" ∨ name ∉ excludedKeys ∧ name ∈ fields.keys := by
  have hsignable : name ∈ (signable fields).map Prod.fst ↔ name ∉ excludedKeys ∧ name ∈ fields.keys := by
    rw [keys_signable, List.mem_filter, decide_eq_true_eq]
    exact and_comm
  rw [← hsignable]
  constructor
  · intro h
    obtain ⟨entry, hentry, rfl⟩ := List.mem_map.mp h
    rcases mem_signedFields.mp hentry with hentry | hentry
    · exact .inr (List.mem_map_of_mem hentry)
    · obtain ⟨-, rfl⟩ := mem_impliedHost.mp hentry
      exact .inl rfl
  · rintro (rfl | h)
    · by_cases hnone : ∀ other ∈ signable fields, other.1 ≠ "host"
      · have himplied := (mem_impliedHost (a := a)).mpr ⟨hnone, rfl⟩
        exact List.mem_map.mpr ⟨_, mem_signedFields.mpr (.inr himplied), rfl⟩
      · obtain ⟨other, hother, hkey⟩ : ∃ other ∈ signable fields, other.1 = "host" := by
          simpa using hnone
        exact List.mem_map.mpr ⟨other, mem_signedFields.mpr (.inl hother), hkey⟩
    · obtain ⟨entry, hentry, rfl⟩ := List.mem_map.mp h
      exact List.mem_map_of_mem (mem_signedFields.mpr (.inl hentry))

theorem lower_of_mem_keys {fields : Fields} {key : String} (h : key ∈ fields.keys) :
    Text.lower key = key := by
  obtain ⟨f, -, rfl⟩ := List.mem_map.mp h
  exact Text.lower_lower f.name

/-- **The names of the signed fields protect the fields,** whatever these are. -/
theorem signedNames_protect (fields : Fields) (a : Address) : Protects (signedNames fields a) fields where
  increasing := pairwise_signedNames fields a
  lowered := by
    intro name h
    rcases mem_signedNames.mp h with rfl | ⟨-, hkey⟩
    · decide
    · exact lower_of_mem_keys hkey
  host := mem_signedNames.mpr (.inl rfl)
  exact := fun _ => mem_signedNames

end SigV4
