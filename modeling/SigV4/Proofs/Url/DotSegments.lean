/-
  THE REMOVAL OF DOT SEGMENTS, as RFC 3986 has it and as a stack of segments does it.

  1. **The buffers** — `resolve` is the algorithm of section 5.2.4: it moves a path from an input buffer to an
     output buffer, turn by turn, and never looks at more than the beginning of the one and the end of the
     other.  `oneSlash` finds the runs of slashes and makes one slash of each.
  2. **The stack, written out** — with the stack of `keepSegments` written out as their output, and the
     segments that are left before them, the buffers come to what the stack keeps (`Buffers.run_join`).  So
     `resolve_slash`: the path is what the stack keeps of it, each segment with a slash before it.
  3. **Both ways** — they agree just where the path does not slip (`Slips`); where it does, the stack misses
     the leading slash (`removeDotSegments_resolves`).  Once the runs of slashes are single, only the path
     that comes to the root alone is still without it (`Vanishes`), and a canonical path has that one put
     back: `canonicalPath_resolves`.

  The crux is `Buffers.run_join`: the stack of the buffers starts EMPTY, without the marker of the leading slash
  that lies at the bottom of the other, so a `..` at the root finds nothing to take back.
-/
import SigV4.Proofs.Url.Target

namespace SigV4.Path

open Text

/-! ## The buffers -/

/-- The buffers of the algorithm: what has been written, and what is left to read. -/
structure Buffers where
  output : List Char := []
  input : List Char

namespace Buffers

/-- What has been written, without its last segment and the slash before that, if there is one. -/
def dropSegment (output : List Char) : List Char :=
  (output.reverse.dropWhile (· != '/')).tail.reverse

/-- **One turn of the loop,** by the first of the rules that fits. -/
def turn (output : List Char) : List Char → Buffers
  -- A: dot segments without a slash before them are passed over
  | '.' :: '.' :: '/' :: rest => ⟨output, rest⟩
  | '.' :: '/' :: rest => ⟨output, rest⟩
  -- B: so is a single dot, but for a slash
  | '/' :: '.' :: '/' :: rest => ⟨output, '/' :: rest⟩
  | ['/', '.'] => ⟨output, ['/']⟩
  -- C: two dots also take back what was written last
  | '/' :: '.' :: '.' :: '/' :: rest => ⟨dropSegment output, '/' :: rest⟩
  | ['/', '.', '.'] => ⟨dropSegment output, ['/']⟩
  -- D: nothing but a dot segment is left
  | ['.'] => ⟨output, []⟩
  | ['.', '.'] => ⟨output, []⟩
  -- E: a segment is moved, with the slash before it
  | c :: rest => ⟨output ++ c :: rest.takeWhile (· != '/'), rest.dropWhile (· != '/')⟩
  | [] => ⟨output, []⟩

/-- Every turn reads something. -/
theorem length_turn_lt {input : List Char} (h : input ≠ []) (output : List Char) :
    (turn output input).input.length < input.length := by
  fun_cases turn output input with
  | case9 c rest =>
    have := (List.dropWhile_suffix (l := rest) (· != '/')).length_le
    exact Nat.lt_succ_of_le this
  | case10 => exact absurd rfl h
  | _ =>
    simp only [List.length_cons, List.length_nil]
    omega

/-- Turn after turn, until nothing is left to read. -/
def run (b : Buffers) : List Char :=
  if b.input = [] then b.output else (turn b.output b.input).run
termination_by b.input.length
decreasing_by exact length_turn_lt ‹_› b.output

end Buffers

/-- **The path without its dot segments,** by RFC 3986, section 5.2.4. -/
def resolve (path : List Char) : List Char := Buffers.run { input := path }

/-- **One slash for every run of slashes.** -/
def oneSlash : List Char → List Char
  | [] => []
  | c :: rest => if c = '/' then '/' :: oneSlash (rest.dropWhile (· == '/')) else c :: oneSlash rest
termination_by path => path.length
decreasing_by
  · have := (List.dropWhile_suffix (l := rest) (· == '/')).length_le
    simp; omega
  · simp

/-! ## The stack, written out -/

/-- Segments in a row, each with a slash before it. -/
def written (segments : List (List Char)) : List Char := segments.flatMap ('/' :: ·)

theorem written_append (a b : List (List Char)) : written (a ++ b) = written a ++ written b :=
  List.flatMap_append

theorem written_concat (segments : List (List Char)) (segment : List Char) :
    written (segments ++ [segment]) = written segments ++ '/' :: segment := by
  rw [written_append]
  show _ ++ (('/' :: segment) ++ []) = _
  rw [List.append_nil]

/-- A row with an empty segment in front has a slash before each of the others. -/
theorem join_nil_cons (segments : List (List Char)) : join '/' ([] :: segments) = written segments := by
  induction segments with
  | nil => rfl
  | cons segment rest ih =>
    cases rest with
    | nil => simp [join, written]
    | cons next rest =>
      rw [join_cons '/' [] (List.cons_ne_nil _ _), join_cons '/' segment (List.cons_ne_nil _ _)]
      rw [join_cons '/' [] (List.cons_ne_nil _ _)] at ih
      show '/' :: (segment ++ ([] ++ '/' :: join '/' (next :: rest))) = _
      rw [ih]
      rfl

namespace Buffers

theorem dropSegment_concat {segment : List Char} (h : '/' ∉ segment) (segments : List (List Char)) :
    dropSegment (written (segments ++ [segment])) = written segments := by
  have hne : ∀ c ∈ segment.reverse, (c != '/') = true := by
    intro c hc
    rw [bne_iff_ne]
    rintro rfl
    exact h (List.mem_reverse.mp hc)
  rw [written_concat, dropSegment, List.reverse_append, List.reverse_cons, List.append_assoc,
    List.dropWhile_append_of_pos hne, List.singleton_append,
    List.dropWhile_cons_of_neg (by decide), List.tail_cons, List.reverse_reverse]

/-- What stands behind a segment: nothing, or another slash. -/
def Behind (more : List Char) : Prop := ∀ c ∈ more.head?, c = '/'

theorem behind_nil : Behind [] := fun _ h => nomatch h

theorem behind_slash (rest : List Char) : Behind ('/' :: rest) := by
  rintro _ ⟨⟩
  rfl

theorem span_segment {segment more : List Char} (h : '/' ∉ segment) (hmore : Behind more) :
    (segment ++ more).takeWhile (· != '/') = segment
      ∧ (segment ++ more).dropWhile (· != '/') = more := by
  have hne : ∀ c ∈ segment, (c != '/') = true := by
    intro c hc
    rw [bne_iff_ne]
    rintro rfl
    exact h hc
  rw [List.takeWhile_append_of_pos hne, List.dropWhile_append_of_pos hne]
  cases more with
  | nil => exact ⟨List.append_nil segment, rfl⟩
  | cons c rest =>
    obtain rfl : c = '/' := hmore c rfl
    rw [List.takeWhile_cons_of_neg (by decide), List.dropWhile_cons_of_neg (by decide)]
    exact ⟨List.append_nil segment, rfl⟩

/-- Behind a slash everything but a dot segment is moved. -/
theorem turn_slash {rest : List Char} (h : ¬IsDots (rest.takeWhile (· != '/')))
    (output : List Char) : turn output ('/' :: rest)
      = ⟨output ++ '/' :: rest.takeWhile (· != '/'), rest.dropWhile (· != '/')⟩ := by
  generalize hinput : '/' :: rest = input
  fun_cases turn output input with
  | case3 | case4 =>
    cases hinput
    exact absurd (.inl rfl) h
  | case5 | case6 =>
    cases hinput
    exact absurd (.inr rfl) h
  | case9 c more =>
    cases hinput
    rfl
  | _ => cases hinput

/-- A NAME is moved, with the slash before it. -/
theorem turn_name {segment more : List Char} (h : '/' ∉ segment) (hdots : ¬IsDots segment)
    (hmore : Behind more) (output : List Char) :
    turn output ('/' :: (segment ++ more)) = ⟨output ++ '/' :: segment, more⟩ := by
  obtain ⟨htake, hdrop⟩ := span_segment h hmore
  rw [turn_slash (by rwa [htake]), htake, hdrop]

theorem run_nil (output : List Char) : run ⟨output, []⟩ = output := by
  rw [run, if_pos rfl]

theorem run_cons (output : List Char) (c : Char) (rest : List Char) :
    run ⟨output, c :: rest⟩ = run (turn output (c :: rest)) := by
  rw [run, if_neg (List.cons_ne_nil c rest)]

/-- A last slash is moved on its own. -/
theorem run_slash (output : List Char) : run ⟨output, ['/']⟩ = output ++ ['/'] := by
  have hturn : turn output ['/'] = ⟨output ++ ['/'], []⟩ := rfl
  rw [run_cons, hturn, run_nil]

/-- Taking a segment back is taking it off the stack, if there is one. -/
theorem dropSegment_written {stack : List (List Char)} (h : ∀ s ∈ stack, '/' ∉ s) :
    dropSegment (written stack.reverse) = written stack.tail.reverse := by
  cases stack with
  | nil => rfl
  | cons top below =>
    rw [List.reverse_cons]
    exact dropSegment_concat (h top List.mem_cons_self) below.reverse

end Buffers

/-- What is left behind segments that end in a dot segment: an empty one. -/
def closing (segments : List (List Char)) : List (List Char) :=
  if endsInDots ([] :: segments) then [[]] else []

theorem closing_cons (segment : List Char) {segments : List (List Char)} (h : segments ≠ []) :
    closing (segment :: segments) = closing segments := by
  obtain ⟨next, rest, rfl⟩ := List.exists_cons_of_ne_nil h
  rfl

theorem closing_singleton_of_isDots {segment : List Char} (h : IsDots segment) :
    closing [segment] = [[]] := by
  rcases h with rfl | rfl
  · rfl
  · rfl

theorem closing_singleton_of_not_isDots {segment : List Char} (h : ¬IsDots segment) :
    closing [segment] = [] := by
  rw [closing, if_neg]
  intro hends
  simp [endsInDots] at hends
  exact h hends

namespace Buffers

/-- **The buffers and the stack agree.**  With the stack written out as what was moved, and the segments left
to read, the buffers come to what the stack keeps of them.  By induction on the segments. -/
theorem run_join {stack segments : List (List Char)} (hne : segments ≠ [])
    (hstack : ∀ s ∈ stack, '/' ∉ s) (hsegments : ∀ s ∈ segments, '/' ∉ s) :
    run ⟨written stack.reverse, '/' :: join '/' segments⟩
      = written ((keepSegments stack segments).reverse ++ closing segments) := by
  induction segments generalizing stack with
  | nil => exact absurd rfl hne
  | cons segment rest ih =>
    have htail : ∀ s ∈ stack.tail, '/' ∉ s := fun s hs => hstack s (List.mem_of_mem_tail hs)
    have hsegment : '/' ∉ segment := hsegments segment List.mem_cons_self
    cases rest with
    | nil =>
      show run ⟨_, '/' :: segment⟩ = _
      by_cases hdot : segment = dot
      · subst hdot
        show run ⟨_, ['/', '.']⟩ = _
        rw [run_cons, closing_singleton_of_isDots (.inl rfl), written_concat]
        exact run_slash _
      by_cases hdotDot : segment = dotDot
      · subst hdotDot
        show run ⟨_, ['/', '.', '.']⟩ = _
        rw [run_cons, closing_singleton_of_isDots (.inr rfl), written_concat]
        show run ⟨dropSegment _, ['/']⟩ = _
        rw [dropSegment_written hstack]
        exact run_slash _
      · have hdots : ¬IsDots segment := fun h => h.elim hdot hdotDot
        have hturn := turn_name hsegment hdots behind_nil (written stack.reverse)
        rw [List.append_nil] at hturn
        rw [run_cons, hturn, run_nil, closing_singleton_of_not_isDots hdots, List.append_nil, keepSegments,
          if_neg hdot, if_neg hdotDot, keepSegments, List.reverse_cons, written_concat]
    | cons next more =>
      have hrest : ∀ s ∈ next :: more, '/' ∉ s := fun s hs => hsegments s (List.mem_cons_of_mem _ hs)
      have hcons : next :: more ≠ [] := List.cons_ne_nil _ _
      rw [join_cons '/' segment hcons, closing_cons segment hcons]
      by_cases hdot : segment = dot
      · subst hdot
        rw [run_cons]
        exact ih hcons hstack hrest
      by_cases hdotDot : segment = dotDot
      · subst hdotDot
        rw [run_cons]
        show run ⟨dropSegment _, _⟩ = _
        rw [dropSegment_written hstack]
        exact ih hcons htail hrest
      · have hdots : ¬IsDots segment := fun h => h.elim hdot hdotDot
        have hpushed : ∀ s ∈ segment :: stack, '/' ∉ s := by
          intro s hs
          rcases List.mem_cons.mp hs with rfl | hs
          · exact hsegment
          · exact hstack s hs
        rw [run_cons, turn_name hsegment hdots (behind_slash _), ← written_concat,
          ← List.reverse_cons, keepSegments, if_neg hdot, if_neg hdotDot]
        exact ih hcons hpushed hrest

end Buffers

/-- **The path by its stack:** what is kept behind the leading slash, each with a slash before it. -/
theorem resolve_slash (path : List Char) :
    resolve ('/' :: path) = written (keptSegments path ++ closing (split '/' path)) := by
  have hjoin := Buffers.run_join (split_ne_nil '/' path) (List.forall_mem_nil ('/' ∉ ·))
    (fun _ h => not_mem_of_mem_split h)
  rwa [join_split] at hjoin

example : resolve "/a/b/c/./../../g".toList = "/a/g".toList :=
  (resolve_slash "a/b/c/./../../g".toList).trans (by decide)

/-! ## Both ways -/

/-- One slash for every run, whichever way the runs are found. -/
theorem squeeze_eq_oneSlash (path : List Char) : squeeze path = oneSlash path := by
  fun_induction squeeze path with
  | case1 rest ih =>
    rw [ih, oneSlash, oneSlash, if_pos rfl, if_pos rfl]
    rfl
  | case2 c rest h ih =>
    rw [oneSlash]
    split
    · rename_i hc
      subst hc
      have hdrop : rest.dropWhile (· == '/') = rest := by
        cases rest with
        | nil => rfl
        | cons d ds =>
          rw [List.dropWhile_cons_of_neg]
          simpa using fun hd => h ds rfl (by rw [hd])
      rw [hdrop, ih]
    · rw [ih]
  | case3 => rw [oneSlash]

/-- SOMETHING IS LEFT of every path: its last segment, or an empty one behind a dot segment. -/
theorem keep_or_close {segments : List (List Char)} (hne : segments ≠ []) (stack : List (List Char)) :
    keepSegments stack segments ≠ [] ∨ closing segments ≠ [] := by
  induction segments generalizing stack with
  | nil => exact absurd rfl hne
  | cons segment rest ih =>
    by_cases hrest : rest = []
    · subst hrest
      by_cases hdots : IsDots segment
      · right
        rw [closing_singleton_of_isDots hdots]
        exact List.cons_ne_nil _ _
      · left
        rw [keepSegments, if_neg fun h => hdots (.inl h), if_neg fun h => hdots (.inr h)]
        exact List.cons_ne_nil _ _
    · rw [closing_cons segment hrest, keepSegments]
      split
      · exact ih hrest stack
      · split
        · exact ih hrest stack.tail
        · exact ih hrest (segment :: stack)

/-- A path with a leading slash KEEPS ONE. -/
theorem head?_resolve (path : List Char) : (resolve ('/' :: path)).head? = some '/' := by
  rw [resolve_slash]
  cases hleft : keptSegments path ++ closing (split '/' path) with
  | nil =>
    obtain ⟨hkept, hclosing⟩ := List.append_eq_nil_iff.mp hleft
    rcases keep_or_close (split_ne_nil '/' path) [] with h | h
    · exact absurd (List.reverse_eq_nil_iff.mp hkept) h
    · exact absurd hclosing h
  | cons first rest => rfl

/-- What is left behind a leading slash, the marker of that slash apart. -/
theorem leftSegments_slash (path : List Char) :
    (Slips path → leftSegments ('/' :: path) = keptSegments path ++ closing (split '/' path))
      ∧ (¬Slips path →
        leftSegments ('/' :: path) = [] :: (keptSegments path ++ closing (split '/' path))) := by
  have hclose {first : List Char} {rest : List (List Char)}
      (h : rootedSegments ('/' :: path) = first :: rest) :
      leftSegments ('/' :: path) = first :: (rest ++ closing (split '/' path)) := by
    rw [leftSegments_of_cons h, split_sep, closing]
    split
    · rfl
    · rw [List.append_nil]
  obtain ⟨hslip, hmarked⟩ := rootedSegments_slash path
  constructor
  · intro h
    obtain ⟨rest, hrest⟩ := List.head?_eq_some_iff.mp h.2
    rw [hclose ((hslip h).trans hrest), hrest]
    rfl
  · intro h
    exact hclose (hmarked h)

/-- A path that does not slip is removed of its dot segments AS THE ALGORITHM HAS IT. -/
theorem removeDotSegments_of_not_slips {path : List Char} (h : ¬Slips path) :
    removeDotSegments ('/' :: path) false = resolve ('/' :: path) := by
  rw [removeDotSegments_eq, (leftSegments_slash path).2 h, resolve_slash]
  exact join_nil_cons _

/-- Of a path that slips the leading slash IS MISSING. -/
theorem removeDotSegments_of_slips {path : List Char} (h : Slips path) :
    ∃ segments, removeDotSegments ('/' :: path) false = written segments
      ∧ resolve ('/' :: path) = '/' :: written segments := by
  obtain ⟨rest, hrest⟩ := List.head?_eq_some_iff.mp h.2
  refine ⟨rest ++ closing (split '/' path), ?_, ?_⟩
  · rw [removeDotSegments_eq, (leftSegments_slash path).1 h, hrest]
    exact join_nil_cons _
  · rw [resolve_slash, hrest]
    rfl

theorem removeDotSegments_true (path : List Char) :
    removeDotSegments path true = oneSlash (removeDotSegments path false) :=
  squeeze_eq_oneSlash _

/-- A second slash at the beginning is not missed once slashes are single. -/
theorem oneSlash_slash_slash (path : List Char) :
    oneSlash ('/' :: '/' :: path) = oneSlash ('/' :: path) := by
  rw [oneSlash, oneSlash]
  rfl

theorem head?_oneSlash (path : List Char) : (oneSlash path).head? = path.head? := by
  rw [← squeeze_eq_oneSlash, head?_squeeze]

/-- Single slashes or not, a path starts with the same. -/
theorem head?_removeDotSegments (path : List Char) (singleSlashes : Bool) :
    (removeDotSegments path singleSlashes).head? = (removeDotSegments path false).head? := by
  cases singleSlashes with
  | false => rfl
  | true => exact head?_squeeze _

/-- Whether a path slips and comes to the root alone: the slash that is missing was ALL OF IT. -/
def Vanishes (path : List Char) : Prop := Slips path ∧ resolve ('/' :: path) = ['/']

/-- **What becomes of a path:** it is resolved; or it slips, and misses the first of two slashes or all that
there was. -/
theorem removeDotSegments_cases (path : List Char) :
    (¬Slips path ∧ removeDotSegments ('/' :: path) false = resolve ('/' :: path))
      ∨ (Slips path ∧ ¬Vanishes path ∧ ∃ rest, removeDotSegments ('/' :: path) false = '/' :: rest
        ∧ resolve ('/' :: path) = '/' :: '/' :: rest)
      ∨ (Vanishes path ∧ removeDotSegments ('/' :: path) false = []) := by
  by_cases h : Slips path
  · obtain ⟨segments, hremoved, hresolved⟩ := removeDotSegments_of_slips h
    cases segments with
    | nil => exact .inr (.inr ⟨⟨h, hresolved⟩, hremoved⟩)
    | cons segment rest =>
      refine .inr (.inl ⟨h, fun hvanishes => ?_, segment ++ written rest, hremoved, hresolved⟩)
      rw [hvanishes.2] at hresolved
      cases hresolved
  · exact .inl ⟨h, removeDotSegments_of_not_slips h⟩

/-- **The stack against the buffers,** for every path with a leading slash.  The buffers always leave it that
slash.  The stack leaves the same path if and only if the path does not slip; if it does, the leading slash is
missing.  With single slashes the stack leaves the same if and only if the path does not vanish.  With single
slashes or without, what it leaves starts with a slash if and only if the path does not vanish; if it does,
nothing is left. -/
theorem removeDotSegments_resolves (path : List Char) :
    (resolve ('/' :: path)).head? = some '/'
      ∧ (removeDotSegments ('/' :: path) false = resolve ('/' :: path) ↔ ¬Slips path)
      ∧ (Slips path → '/' :: removeDotSegments ('/' :: path) false = resolve ('/' :: path))
      ∧ (removeDotSegments ('/' :: path) true = oneSlash (resolve ('/' :: path)) ↔ ¬Vanishes path)
      ∧ ∀ singleSlashes,
        ((removeDotSegments ('/' :: path) singleSlashes).head? = some '/' ↔ ¬Vanishes path)
          ∧ (Vanishes path → removeDotSegments ('/' :: path) singleSlashes = []) := by
  have hhead := head?_resolve path
  refine ⟨hhead, ?_⟩
  obtain ⟨hslips, hremoved⟩ | ⟨hslips, hstays, rest, hremoved, hresolved⟩ | ⟨hvanishes, hremoved⟩ :=
    removeDotSegments_cases path
  · have hstays : ¬Vanishes path := fun h => hslips h.1
    refine ⟨iff_of_true hremoved hslips, fun h => absurd h hslips, iff_of_true ?_ hstays,
      fun singleSlashes => ⟨iff_of_true ?_ hstays, fun h => absurd h hstays⟩⟩
    · rw [removeDotSegments_true, hremoved]
    · rw [head?_removeDotSegments, hremoved, hhead]
  · refine ⟨iff_of_false (fun h => ?_) fun h => h hslips, fun _ => ?_, iff_of_true ?_ hstays,
      fun singleSlashes => ⟨iff_of_true ?_ hstays, fun h => absurd h hstays⟩⟩
    · rw [hremoved, hresolved] at h
      exact List.cons_ne_self _ _ (List.cons.inj h).2.symm
    · rw [hremoved, hresolved]
    · rw [removeDotSegments_true, hremoved, hresolved, oneSlash_slash_slash]
    · rw [head?_removeDotSegments, hremoved]
      rfl
  · have hnothing (singleSlashes : Bool) : removeDotSegments ('/' :: path) singleSlashes = [] := by
      rw [← List.head?_eq_none_iff, head?_removeDotSegments, hremoved]
      rfl
    refine ⟨iff_of_false (fun h => ?_) fun h => h hvanishes.1, fun _ => ?_,
      iff_of_false (fun h => ?_) fun h => h hvanishes,
      fun singleSlashes =>
        ⟨iff_of_false (fun h => ?_) fun h => h hvanishes, fun _ => hnothing singleSlashes⟩⟩
    · rw [hremoved, hvanishes.2] at h
      cases h
    · rw [hremoved, hvanishes.2]
    · rw [hnothing, hvanishes.2, oneSlash] at h
      cases h
    · rw [hnothing] at h
      cases h

/-- ABOVE THE ROOT the leading slash is lost: nothing is left of `/../`, with single slashes or without, and one
slash too few of `/..//a`. -/
theorem removeDotSegments_resolves_not_above_root :
    (removeDotSegments "/../".toList false = [] ∧ resolve "/../".toList = ['/'])
      ∧ (removeDotSegments "/../".toList true = [] ∧ oneSlash (resolve "/../".toList) = ['/'])
      ∧ (removeDotSegments "/..//a".toList false = "/a".toList
        ∧ resolve "/..//a".toList = "//a".toList) := by
  have hroot : resolve "/../".toList = ['/'] := (resolve_slash "../".toList).trans (by decide)
  have hslashes : resolve "/..//a".toList = "//a".toList := (resolve_slash "..//a".toList).trans (by decide)
  exact ⟨⟨by decide, hroot⟩, ⟨by decide, by rw [hroot]; simp [oneSlash]⟩, by decide, hslashes⟩

/-- What is encoded of a path with a leading slash: a root that has vanished is put back. -/
theorem cleanPath_resolves (path : List Char) :
    cleanPath ('/' :: path) true = oneSlash (resolve ('/' :: path)) := by
  have hroot {cs : List Char} (h : cs.head? = some '/') : orRoot (oneSlash cs) = oneSlash cs := by
    refine orRoot_of_ne_nil fun hnil => ?_
    rw [← head?_oneSlash, hnil] at h
    cases h
  rw [cleanPath_normalize, orRoot_of_ne_nil (List.cons_ne_nil '/' path), removeDotSegments_true]
  obtain ⟨-, hremoved⟩ | ⟨-, -, rest, hremoved, hresolved⟩ | ⟨⟨-, hresolved⟩, hremoved⟩ :=
    removeDotSegments_cases path
  · rw [hremoved]
    exact hroot (head?_resolve path)
  · rw [hremoved, hresolved, oneSlash_slash_slash]
    exact hroot rfl
  · rw [hremoved, hresolved]
    simp [oneSlash, orRoot]

/-- **The canonical form of a path with a leading slash:** its dot segments are removed as RFC 3986 has it,
every run of slashes is made one slash, and the path is encoded, once or twice. -/
theorem canonicalPath_resolves {path : String} (h : path.toList.head? = some '/') (twice : Bool) :
    canonicalPath (some path) twice true
      = String.ofList (if twice then encodeAgain (oneSlash (resolve path.toList))
          else encodePath (oneSlash (resolve path.toList))) := by
  obtain ⟨rest, hrest⟩ := List.head?_eq_some_iff.mp h
  have hclean : cleanPath path.toList true = oneSlash (resolve path.toList) := by
    rw [hrest]
    exact cleanPath_resolves rest
  rw [← hclean]
  rfl

/-- A path that climbs above the root, is repaired, and ends in a dot segment. -/
theorem canonicalPath_resolves_above_root :
    "/..//%7e/../b/.".toList.head? = some '/'
      ∧ canonicalPath (some "/..//%7e/../b/.") false true
        = String.ofList (if false then encodeAgain (oneSlash (resolve "/..//%7e/../b/.".toList))
          else encodePath (oneSlash (resolve "/..//%7e/../b/.".toList))) :=
  ⟨by decide, canonicalPath_resolves (by decide) false⟩

end SigV4.Path
