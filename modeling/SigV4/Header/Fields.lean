/-
  The FIELDS of a request: an ordered collection in which a name, whatever its letter case, occurs
  once.

  1. **The invariant is in the type** — `distinct`: no two fields have the same key.
  2. **Building** — `Fields.ofList` merges fields of one key: the first gives the place and the
     name, the values follow in order of occurrence.
  3. **Changing** — `set` replaces a field where it stands or puts it at the end, `erase` takes it
     away, `addValue?` adds a value to it.  None of them touches a field of another key.
-/
import SigV4.Header.Field

namespace SigV4

/-- Header fields in order, one for each key. -/
structure Fields where
  toList : List Field
  distinct : (toList.map Field.key).Nodup

namespace Fields

/-- No fields. -/
def empty : Fields := ⟨[], List.nodup_nil⟩

instance : Inhabited Fields := ⟨empty⟩

/-- Collections are the same when their fields are, in order. -/
@[ext] theorem ext {a b : Fields} (h : a.toList = b.toList) : a = b := by
  cases a; cases b; simp_all

instance : DecidableEq Fields := fun a b =>
  if h : a.toList = b.toList then isTrue (ext h) else isFalse fun e => h (e ▸ rfl)

/-! ## Looking up -/

/-- The field under a name of any letter case. -/
def get? (fs : Fields) (name : String) : Option Field :=
  fs.toList.find? fun f => f.key = Text.lower name

/-- Whether there is a field under a name of any letter case. -/
def contains (fs : Fields) (name : String) : Bool := (fs.get? name).isSome

/-- The keys in order. -/
def keys (fs : Fields) : List String := fs.toList.map Field.key

/-- How many fields there are. -/
def size (fs : Fields) : Nat := fs.toList.length

/-! ## Changing -/

/-- Every field with key `key` changed by `change`, which must leave the key alone. -/
def mapKey (fs : Fields) (key : String) (change : Field → Field)
    (keeps : ∀ f : Field, f.key = key → (change f).key = key) : Fields where
  toList := fs.toList.map fun f => if f.key = key then change f else f
  distinct := by
    have same : (fs.toList.map fun f => if f.key = key then change f else f).map Field.key
        = fs.toList.map Field.key := by
      rw [List.map_map]
      apply List.map_congr_left
      intro f _
      simp only [Function.comp]
      split
      · rename_i h; rw [keeps f h, h]
      · rfl
    rw [same]
    exact fs.distinct

/-- One more field, whose key is new, at the end. -/
def push (fs : Fields) (f : Field) (new : f.key ∉ fs.keys) : Fields where
  toList := fs.toList ++ [f]
  distinct := by
    rw [List.map_append, List.nodup_append]
    refine ⟨fs.distinct, by simp, ?_⟩
    intro a ha b hb
    simp only [List.map_cons, List.map_nil, List.mem_singleton] at hb
    subst hb
    exact fun e => new (e ▸ ha)

/-- **The fields with `f` in the place of the one with its key,** or at the end. -/
def set (fs : Fields) (f : Field) : Fields :=
  if h : f.key ∈ fs.keys then fs.mapKey f.key (fun _ => f) (fun _ _ => rfl) else fs.push f h

/-- **The fields without the one under a name.** -/
def erase (fs : Fields) (name : String) : Fields where
  toList := fs.toList.filter fun f => f.key ≠ Text.lower name
  distinct := (List.filter_sublist.map _).nodup fs.distinct

/-- The fields with one more value under a name, if there is a field under it. -/
def addValue? (fs : Fields) (name value : String) : Option Fields :=
  if fs.contains name then
    some (fs.mapKey (Text.lower name) (·.add value) (fun _ h => h))
  else none

/-! ## Building -/

/-- The fields with the values of `f` behind those of its key, or with `f` at the end. -/
def merge (fs : Fields) (f : Field) : Fields :=
  if h : f.key ∈ fs.keys then
    fs.mapKey f.key (fun e => { e with values := e.values ++ f.values }) (fun _ h => h)
  else fs.push f h

/-- **The collection that a list of fields makes.** -/
def ofList (fields : List Field) : Fields := fields.foldl merge empty

/-! ## Showing -/

/-- The fields for a reader of messages. -/
def describe (fs : Fields) : String := "Fields(" ++ Text.bracketed (fs.toList.map Field.describe) ++ ")"

@[simp] theorem toList_empty : empty.toList = [] := rfl

@[simp] theorem toList_erase (fs : Fields) (name : String) :
    (fs.erase name).toList = fs.toList.filter fun f => f.key ≠ Text.lower name := rfl

end Fields

end SigV4
