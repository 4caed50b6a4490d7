/-
  THE SEGMENTS OF A PATH, and what the removal of dot segments leaves of them.

  1. **Single slashes** — a path has no two slashes side by side if and only if none of its INNER segments
     is empty (`singleSlashes_iff`).  `squeeze` makes every path so, leaves those alone that are so, and
     has no segment that was not there before (`split_squeeze`).
  2. **Dot segments** — what the stack keeps (`mem_keepSegments`); so every segment that is left stood
     there before and is no dot segment, or is empty (`remains_of_mem_split`).  A path that is normal
     already is left alone (`removeDotSegments_of_normal`).
  3. **Climbing** — the marker of the leading slash stays below what is kept unless the path `Climbs` above
     the root.  It is put back then, unless the path `Slips`: what is kept begins with an empty segment
     that passes for it (`rootedSegments_slash`).

  The crux of the second point is that nothing is ever JOINED to a segment: what is left are segments of
  the path as they stood, and empty ones.
-/
import SigV4.Proofs.Text.Pieces
import SigV4.Url.Path

namespace SigV4.Path

open Text

/-! ## Single slashes -/

/-- No two slashes stand side by side. -/
def SingleSlashes (path : List Char) : Prop := ¬['/', '/'] <:+: path

theorem singleSlashes_cons (c : Char) (cs : List Char) :
    SingleSlashes (c :: cs) ↔ ¬(c = '/' ∧ cs.head? = some '/') ∧ SingleSlashes cs := by
  have hhead : ['/', '/'] <+: c :: cs ↔ c = '/' ∧ cs.head? = some '/' := by
    cases cs with
    | nil => simp
    | cons d ds => simp [List.cons_prefix_cons, eq_comm]
  unfold SingleSlashes
  rw [List.infix_cons_iff, hhead, not_or]

/-- Two slashes side by side are AN EMPTY SEGMENT inside the path. -/
theorem singleSlashes_iff (path : List Char) :
    SingleSlashes path ↔ [] ∉ (split '/' path).tail.dropLast := by
  induction path with
  | nil =>
    have hnil : SingleSlashes [] := by simp [SingleSlashes]
    simp [hnil, split]
  | cons c cs ih =>
    rw [singleSlashes_cons, ih]
    obtain ⟨first, rest, hfirst⟩ := List.exists_cons_of_ne_nil (split_ne_nil '/' cs)
    by_cases hc : c = '/'
    · subst hc
      rw [split_sep, hfirst]
      show ¬('/' = '/' ∧ cs.head? = some '/') ∧ [] ∉ rest.dropLast ↔ [] ∉ (first :: rest).dropLast
      cases cs with
      | nil =>
        obtain ⟨rfl, rfl⟩ : [] = first ∧ [] = rest := by simpa [split] using hfirst
        simp
      | cons d ds =>
        obtain ⟨piece, pieces, hds⟩ := List.exists_cons_of_ne_nil (split_ne_nil '/' ds)
        by_cases hd : d = '/'
        · subst hd
          rw [split_sep, hds] at hfirst
          obtain ⟨rfl, rfl⟩ : [] = first ∧ piece :: pieces = rest := by simpa using hfirst
          simp
        · obtain ⟨before, pieces', -, hsplit⟩ := split_cons_of_ne hd ds
          obtain ⟨rfl, rfl⟩ : d :: before = first ∧ pieces' = rest := by
            simpa [hsplit] using hfirst
          cases pieces' with
          | nil => simp [hd]
          | cons next more => simp [hd]
    · obtain ⟨piece, pieces, hcs, hsplit⟩ := split_cons_of_ne hc cs
      rw [hsplit, hcs]
      simp [hc]

theorem head?_squeeze (cs : List Char) : (squeeze cs).head? = cs.head? := by
  fun_induction squeeze cs with
  | case1 rest ih => exact ih
  | case2 c rest h ih => rfl
  | case3 => rfl

theorem singleSlashes_squeeze (cs : List Char) : SingleSlashes (squeeze cs) := by
  fun_induction squeeze cs with
  | case1 rest ih => exact ih
  | case2 c rest h ih =>
    rw [singleSlashes_cons]
    refine ⟨?_, ih⟩
    rintro ⟨rfl, hhead⟩
    rw [head?_squeeze] at hhead
    obtain ⟨more, rfl⟩ := List.head?_eq_some_iff.mp hhead
    exact h more rfl rfl
  | case3 => simp [SingleSlashes]

theorem squeeze_of_singleSlashes {cs : List Char} (h : SingleSlashes cs) : squeeze cs = cs := by
  fun_induction squeeze cs with
  | case1 rest ih =>
    rw [singleSlashes_cons] at h
    exact absurd ⟨rfl, rfl⟩ h.1
  | case2 c rest hne ih =>
    rw [singleSlashes_cons] at h
    rw [ih h.2]
  | case3 => rfl

/-- Squeezing keeps the first segment, and has NO SEGMENT OF ITS OWN. -/
theorem split_squeeze (cs : List Char) :
    ∃ first left rest, split '/' (squeeze cs) = first :: left ∧ split '/' cs = first :: rest
      ∧ ∀ segment ∈ left, segment ∈ rest := by
  fun_induction squeeze cs with
  | case1 rest ih =>
    obtain ⟨first, left, more, hleft, hmore, hsub⟩ := ih
    rw [split_sep] at hmore
    obtain ⟨rfl, rfl⟩ := List.cons.inj hmore
    refine ⟨[], left, [] :: split '/' rest, hleft, ?_, ?_⟩
    · rw [split_sep, split_sep]
    · exact fun segment h => List.mem_cons_of_mem [] (hsub segment h)
  | case2 c rest hne ih =>
    obtain ⟨first, left, more, hleft, hmore, hsub⟩ := ih
    by_cases hc : c = '/'
    · subst hc
      refine ⟨[], first :: left, first :: more, ?_, ?_, ?_⟩
      · rw [split_sep, hleft]
      · rw [split_sep, hmore]
      · intro segment h
        rcases List.mem_cons.mp h with rfl | h
        · exact List.mem_cons_self
        · exact List.mem_cons_of_mem first (hsub segment h)
    · refine ⟨c :: first, left, more, ?_, ?_, hsub⟩
      · rw [split, if_neg hc, hleft]
      · rw [split, if_neg hc, hmore]
  | case3 => exact ⟨[], [], [], rfl, rfl, fun _ h => h⟩

theorem mem_of_mem_split_squeeze {segment cs : List Char} (h : segment ∈ split '/' (squeeze cs)) :
    segment ∈ split '/' cs := by
  obtain ⟨first, left, rest, hleft, hrest, hsub⟩ := split_squeeze cs
  rw [hleft] at h
  rw [hrest]
  rcases List.mem_cons.mp h with rfl | h
  · exact List.mem_cons_self
  · exact List.mem_cons_of_mem first (hsub segment h)

/-! ## Dot segments -/

/-- A segment that stands for a place among the others, and for no name. -/
def IsDots (segment : List Char) : Prop := segment = dot ∨ segment = dotDot

instance (segment : List Char) : Decidable (IsDots segment) :=
  inferInstanceAs (Decidable (_ ∨ _))

/-- A path without dot segments. -/
def DotFree (path : List Char) : Prop := ∀ segment ∈ split '/' path, ¬IsDots segment

/-- What the stack keeps was ON IT, or is one of the segments and no dot segment. -/
theorem mem_keepSegments {stack segments : List (List Char)} {segment : List Char}
    (h : segment ∈ keepSegments stack segments) :
    segment ∈ stack ∨ (segment ∈ segments ∧ ¬IsDots segment) := by
  fun_induction keepSegments stack segments with
  | case1 stack => exact .inl h
  | case2 stack rest ih =>
    rcases ih h with h | ⟨h, hdots⟩
    · exact .inl h
    · exact .inr ⟨List.mem_cons_of_mem _ h, hdots⟩
  | case3 stack rest hne ih =>
    rcases ih h with h | ⟨h, hdots⟩
    · exact .inl (List.mem_of_mem_tail h)
    · exact .inr ⟨List.mem_cons_of_mem _ h, hdots⟩
  | case4 stack next rest hdot hdotDot ih =>
    rcases ih h with h | ⟨h, hdots⟩
    · rcases List.mem_cons.mp h with rfl | h
      · refine .inr ⟨List.mem_cons_self, ?_⟩
        rintro (hd | hd)
        · exact hdot hd
        · exact hdotDot hd
      · exact .inl h
    · exact .inr ⟨List.mem_cons_of_mem _ h, hdots⟩

/-- Segments that are no dot segments are all kept. -/
theorem keepSegments_of_dotFree {segments : List (List Char)} (h : ∀ s ∈ segments, ¬IsDots s)
    (stack : List (List Char)) : keepSegments stack segments = segments.reverse ++ stack := by
  induction segments generalizing stack with
  | nil => rfl
  | cons segment rest ih =>
    have hdots := h segment List.mem_cons_self
    rw [keepSegments, if_neg fun e => hdots (.inl e), if_neg fun e => hdots (.inr e),
      ih fun s hs => h s (List.mem_cons_of_mem segment hs), List.reverse_cons, List.append_assoc]
    rfl

theorem not_isDots_nil : ¬IsDots [] := by
  rintro (h | h)
  · cases h
  · cases h

/-- The segments that the stack keeps, in the order in which they stood. -/
def keptSegments (path : List Char) : List (List Char) := (keepSegments [] (split '/' path)).reverse

/-- Those, with the marker of a leading slash. -/
def rootedSegments (path : List Char) : List (List Char) :=
  if path.head? = some '/' then restoreRoot (keptSegments path) else keptSegments path

/-- Those, with an empty segment behind a last one that was a dot segment. -/
def leftSegments (path : List Char) : List (List Char) :=
  if !(rootedSegments path).isEmpty && endsInDots (split '/' path) then rootedSegments path ++ [[]]
  else rootedSegments path

theorem removeDotSegments_eq (path : List Char) (singleSlashes : Bool) :
    removeDotSegments path singleSlashes
      = if singleSlashes then squeeze (join '/' (leftSegments path))
        else join '/' (leftSegments path) := rfl

/-- What may be left of a path: a segment that stood there and is no dot segment, or an empty one. -/
def Remains (path segment : List Char) : Prop :=
  segment = [] ∨ (segment ∈ split '/' path ∧ ¬IsDots segment)

theorem Remains.not_isDots {path segment : List Char} (h : Remains path segment) :
    ¬IsDots segment := by
  rcases h with rfl | ⟨-, h⟩
  · exact not_isDots_nil
  · exact h

theorem Remains.not_mem {path segment : List Char} (h : Remains path segment) : '/' ∉ segment := by
  rcases h with rfl | ⟨h, -⟩
  · exact List.not_mem_nil
  · exact not_mem_of_mem_split h

theorem remains_of_mem_keptSegments {path segment : List Char} (h : segment ∈ keptSegments path) :
    Remains path segment := by
  rcases mem_keepSegments (List.mem_reverse.mp h) with h | h
  · exact absurd h List.not_mem_nil
  · exact .inr h

theorem remains_of_mem_rootedSegments {path segment : List Char}
    (h : segment ∈ rootedSegments path) : Remains path segment := by
  unfold rootedSegments restoreRoot at h
  split at h
  · split at h
    · exact remains_of_mem_keptSegments h
    · rcases List.mem_cons.mp h with h | h
      · exact .inl h
      · exact remains_of_mem_keptSegments h
  · exact remains_of_mem_keptSegments h

theorem remains_of_mem_leftSegments {path segment : List Char} (h : segment ∈ leftSegments path) :
    Remains path segment := by
  unfold leftSegments at h
  split at h
  · rcases List.mem_append.mp h with h | h
    · exact remains_of_mem_rootedSegments h
    · exact .inl (List.mem_singleton.mp h)
  · exact remains_of_mem_rootedSegments h

/-- **What is left of a path** are segments that stood there and are no dot segments, and empty ones. -/
theorem remains_of_mem_split {path segment : List Char} {singleSlashes : Bool}
    (h : segment ∈ split '/' (removeDotSegments path singleSlashes)) : Remains path segment := by
  have hjoined (h : segment ∈ split '/' (join '/' (leftSegments path))) : Remains path segment := by
    rcases mem_split_join (fun s hs => (remains_of_mem_leftSegments hs).not_mem) h with h | h
    · exact .inl h
    · exact remains_of_mem_leftSegments h
  rw [removeDotSegments_eq] at h
  split at h
  · exact hjoined (mem_of_mem_split_squeeze h)
  · exact hjoined h

theorem dotFree_removeDotSegments (path : List Char) (singleSlashes : Bool) :
    DotFree (removeDotSegments path singleSlashes) :=
  fun _ h => (remains_of_mem_split h).not_isDots

theorem singleSlashes_removeDotSegments (path : List Char) :
    SingleSlashes (removeDotSegments path true) :=
  singleSlashes_squeeze _

/-- **A path that is normal already is left alone.** -/
theorem removeDotSegments_of_normal {path : List Char} (hdots : DotFree path)
    (hslashes : SingleSlashes path) : removeDotSegments path true = path := by
  have hkept : keptSegments path = split '/' path := by
    rw [keptSegments, keepSegments_of_dotFree hdots, List.append_nil, List.reverse_reverse]
  have hrooted : rootedSegments path = split '/' path := by
    rw [rootedSegments, hkept]
    split
    · rename_i hhead
      obtain ⟨rest, rfl⟩ := List.head?_eq_some_iff.mp hhead
      rw [split_sep]
      rfl
    · rfl
  have hend : endsInDots (split '/' path) = false := by
    have hlast (s : List Char) (hs : IsDots s) : ((split '/' path).getLast? == some s) = false := by
      rw [beq_eq_false_iff_ne]
      exact fun h => hdots s (List.mem_of_getLast? h) hs
    rw [endsInDots, hlast dot (.inl rfl), hlast dotDot (.inr rfl), Bool.or_false, Bool.and_false]
  have hleft : leftSegments path = split '/' path := by
    rw [leftSegments, hrooted, hend, Bool.and_false]
    rfl
  rw [removeDotSegments_eq, if_pos rfl, hleft, join_split, squeeze_of_singleSlashes hslashes]

/-! ## Climbing -/

/-- How many of some segments are names, the empty ones among them. -/
def names (segments : List (List Char)) : Nat := segments.countP fun s => ¬IsDots s

/-- How many of some segments stand for the parent. -/
def parents (segments : List (List Char)) : Nat := segments.countP fun s => s = dotDot

/-- Whether the segments lead out above `depth` names: UP TO SOME PLACE the parents among them outnumber the
names, and those `depth` as well. -/
def Climbs (depth : Nat) (segments : List (List Char)) : Prop :=
  ∃ front, front <+: segments ∧ depth + names front < parents front

theorem climbs_cons (depth : Nat) (segment : List Char) (rest : List (List Char)) :
    Climbs depth (segment :: rest)
      ↔ ∃ front, front <+: rest ∧ depth + names (segment :: front) < parents (segment :: front) := by
  constructor
  · rintro ⟨front, hfront, hlt⟩
    cases front with
    | nil => exact absurd hlt (Nat.not_lt_zero _)
    | cons first front =>
      obtain ⟨rfl, hrest⟩ := List.cons_prefix_cons.mp hfront
      exact ⟨front, hrest, hlt⟩
  · rintro ⟨front, hfront, hlt⟩
    exact ⟨segment :: front, List.cons_prefix_cons.mpr ⟨rfl, hfront⟩, hlt⟩

theorem not_climbs_nil (depth : Nat) : ¬Climbs depth [] := by
  rintro ⟨front, hfront, hlt⟩
  rw [List.prefix_nil.mp hfront] at hlt
  exact Nat.not_lt_zero _ hlt

theorem climbs_dot (depth : Nat) (rest : List (List Char)) :
    Climbs depth (dot :: rest) ↔ Climbs depth rest := by
  rw [climbs_cons]
  rfl

theorem climbs_name {segment : List Char} (h : ¬IsDots segment) (depth : Nat)
    (rest : List (List Char)) : Climbs depth (segment :: rest) ↔ Climbs (depth + 1) rest := by
  have hnames (front : List (List Char)) : names (segment :: front) = names front + 1 :=
    List.countP_cons_of_pos (by simpa using h)
  have hparents (front : List (List Char)) : parents (segment :: front) = parents front :=
    List.countP_cons_of_neg (by simpa using fun he => h (.inr he))
  rw [climbs_cons]
  refine exists_congr fun front => and_congr_right fun _ => ?_
  rw [hnames, hparents]
  omega

theorem climbs_dotDot_zero (rest : List (List Char)) : Climbs 0 (dotDot :: rest) :=
  ⟨[dotDot], ⟨rest, rfl⟩, by decide⟩

theorem climbs_dotDot_succ (depth : Nat) (rest : List (List Char)) :
    Climbs (depth + 1) (dotDot :: rest) ↔ Climbs depth rest := by
  have hnames (front : List (List Char)) : names (dotDot :: front) = names front :=
    List.countP_cons_of_neg (by decide)
  have hparents (front : List (List Char)) : parents (dotDot :: front) = parents front + 1 :=
    List.countP_cons_of_pos (by decide)
  rw [climbs_cons]
  refine exists_congr fun front => and_congr_right fun _ => ?_
  rw [hnames, hparents]
  omega

/-- A marker below the stack is KEPT IF AND ONLY IF the segments do not climb above the stack. -/
theorem keepSegments_marker (stack segments : List (List Char)) :
    (Climbs stack.length segments →
        keepSegments (stack ++ [[]]) segments = keepSegments stack segments)
      ∧ (¬Climbs stack.length segments →
        keepSegments (stack ++ [[]]) segments = keepSegments stack segments ++ [[]]) := by
  induction segments generalizing stack with
  | nil => exact ⟨fun h => absurd h (not_climbs_nil _), fun _ => rfl⟩
  | cons segment rest ih =>
    by_cases hdot : segment = dot
    · subst hdot
      rw [climbs_dot]
      exact ih stack
    by_cases hdotDot : segment = dotDot
    · subst hdotDot
      cases stack with
      | nil => exact ⟨fun _ => rfl, fun h => absurd (climbs_dotDot_zero rest) h⟩
      | cons top below =>
        rw [List.length_cons, climbs_dotDot_succ]
        exact ih below
    · rw [climbs_name fun h => h.elim hdot hdotDot, keepSegments, keepSegments, if_neg hdot, if_neg hdot,
        if_neg hdotDot, if_neg hdotDot]
      exact ih (segment :: stack)

/-- A leading slash puts its marker in front of the segments that are kept, unless the path climbs above
the root: then the marker is gone. -/
theorem keptSegments_slash (path : List Char) :
    (Climbs 0 (split '/' path) → keptSegments ('/' :: path) = keptSegments path)
      ∧ (¬Climbs 0 (split '/' path) → keptSegments ('/' :: path) = [] :: keptSegments path) := by
  have hmarker : keptSegments ('/' :: path) = (keepSegments ([] ++ [[]]) (split '/' path)).reverse := by
    rw [keptSegments, split_sep, keepSegments, if_neg (by decide), if_neg (by decide)]
    rfl
  obtain ⟨hlost, hkept⟩ := keepSegments_marker [] (split '/' path)
  rw [hmarker]
  constructor
  · intro h
    rw [hlost h]
    rfl
  · intro h
    rw [hkept h, List.reverse_append]
    rfl

/-- Whether a path behind a leading slash climbs above the root, and an EMPTY segment is the first that is
kept: it then passes for the marker that is gone. -/
def Slips (path : List Char) : Prop :=
  Climbs 0 (split '/' path) ∧ (keptSegments path).head? = some []

/-- **Behind a leading slash ONE marker stands before the segments that are kept,** or none where the path
slips. -/
theorem rootedSegments_slash (path : List Char) :
    (Slips path → rootedSegments ('/' :: path) = keptSegments path)
      ∧ (¬Slips path → rootedSegments ('/' :: path) = [] :: keptSegments path) := by
  have hroot : rootedSegments ('/' :: path) = restoreRoot (keptSegments ('/' :: path)) := if_pos rfl
  obtain ⟨hlost, hkept⟩ := keptSegments_slash path
  rw [hroot]
  constructor
  · rintro ⟨hclimbs, hhead⟩
    obtain ⟨rest, hrest⟩ := List.head?_eq_some_iff.mp hhead
    rw [hlost hclimbs, hrest]
    rfl
  · intro hslips
    by_cases hclimbs : Climbs 0 (split '/' path)
    · rw [hlost hclimbs]
      unfold restoreRoot
      split
      · rename_i rest hrest
        exact absurd ⟨hclimbs, by rw [hrest]; rfl⟩ hslips
      · rfl
    · rw [hkept hclimbs]
      rfl

end SigV4.Path
