/-
  THE PATH THAT IS SENT, and the path that is signed.

  1. **Sending** — `pathIn` reads the path from the text of an address: what stands between the authority
     and the first `?` or `#`.  For an address of the web it is the path with a leading slash
     (`pathIn_text`), or nothing if there is no path.
  2. **Leading slashes** — encoding keeps a leading slash and never makes one (`head?_writePath`); so does
     the removal of dot segments, save where it takes away every name before an empty segment
     (`head?_cleanPath`).
  3. **Both paths** — `canonicalPath_sent`: the path that is sent is always signed with a leading slash,
     and the path of the address is signed as the same one if and only if it is signed with one too.

  The crux is a path without a leading slash: the address is written with one, the canonical path without.
  A `..` may then take the marker of the slash away, or not; either way one slash is left at the start, or
  none in both.
-/
import SigV4.Proofs.Url.Normal
import SigV4.Url.Address

namespace SigV4.Address

open Text

/-! ## Sending -/

/-- The marks that end a path. -/
def endsPath (c : Char) : Bool := c == '?' || c == '#'

/-- The path in the text of an address: what stands between the authority and the first `?` or `#`. -/
def pathIn (text : List Char) : List Char :=
  let behindScheme := ((cut ':' text).2.getD []).drop 2
  (behindScheme.dropWhile fun c => c != '/' && !endsPath c).takeWhile fun c => !endsPath c

/-- **The path that is sent,** as the text of the address shows it. -/
def sentPath (a : Address) : String := String.ofList (pathIn a.text.toList)

/-- An address of the web: `http` or `https`, a host, and neither in the host nor in the path a mark that
would end them. -/
structure OfWeb (a : Address) : Prop where
  scheme : a.scheme = "http" ∨ a.scheme = "https"
  host_ne : a.host ≠ ""
  host : ∀ c ∈ a.host.toList, c ≠ '/' ∧ endsPath c = false
  path : ∀ c ∈ (a.path.getD "").toList, endsPath c = false

theorem ofWeb_iff (a : Address) :
    a.OfWeb ↔ (a.scheme = "http" ∨ a.scheme = "https") ∧ a.host ≠ ""
      ∧ (a.host.toList.all fun c => c != '/' && !endsPath c) = true
      ∧ ((a.path.getD "").toList.all fun c => !endsPath c) = true := by
  simp only [List.all_eq_true, Bool.and_eq_true, bne_iff_ne, Bool.not_eq_true']
  constructor
  · rintro ⟨hscheme, hne, hhost, hpath⟩
    exact ⟨hscheme, hne, hhost, hpath⟩
  · rintro ⟨hscheme, hne, hhost, hpath⟩
    exact ⟨hscheme, hne, hhost, hpath⟩

instance (a : Address) : Decidable a.OfWeb := decidable_of_iff' _ (ofWeb_iff a)

/-- A number is written without marks. -/
theorem not_mark_of_mem_toString {port : Int} {c : Char} (h : c ∈ (toString port).toList) :
    c ≠ '/' ∧ endsPath c = false := by
  have hdigit {n : Nat} (h : c ∈ n.repr.toList) : c ≠ '/' ∧ endsPath c = false := by
    rw [Nat.toList_repr] at h
    have hdigit := Nat.isDigit_of_mem_toDigits (by decide) (by decide) h
    constructor
    · rintro rfl
      exact absurd hdigit (by decide)
    · cases hend : endsPath c with
      | false => rfl
      | true =>
        rcases (Bool.or_eq_true _ _).mp hend with he | he
        · rw [eq_of_beq he] at hdigit
          exact absurd hdigit (by decide)
        · rw [eq_of_beq he] at hdigit
          exact absurd hdigit (by decide)
  cases port with
  | ofNat n => exact hdigit h
  | negSucc n =>
    have hminus : (toString (Int.negSucc n)).toList = '-' :: (n + 1).repr.toList := by
      show ("-" ++ (n + 1).repr).toList = _
      rw [String.toList_append]
      rfl
    rw [hminus] at h
    rcases List.mem_cons.mp h with rfl | h
    · decide
    · exact hdigit h

theorem OfWeb.authority {a : Address} (h : a.OfWeb) :
    ∀ c ∈ a.authority.toList, c ≠ '/' ∧ endsPath c = false := by
  intro c hc
  unfold Address.authority at hc
  split at hc
  · rename_i port hport
    rw [String.toList_append, String.toList_append, List.append_assoc] at hc
    rcases List.mem_append.mp hc with hc | hc
    · exact h.host c hc
    · rcases List.mem_append.mp hc with hc | hc
      · rw [show c = ':' from List.mem_singleton.mp hc]
        decide
      · exact not_mark_of_mem_toString hc
  · exact h.host c hc

theorem OfWeb.showsAuthority {a : Address} (h : a.OfWeb) : a.showsAuthority = true := by
  have hne : a.authority ≠ "" := by
    intro he
    unfold Address.authority at he
    split at he
    · have := congrArg String.toList he
      simp at this
    · exact h.host_ne he
  have hempty : a.authority.isEmpty = false := by
    rw [Bool.eq_false_iff]
    exact fun he => hne (String.isEmpty_iff.mp he)
  rw [Address.showsAuthority, hempty]
  rfl

/-- A path by its characters, with a leading slash unless it is empty. -/
def rootedChars (path : List Char) : List Char :=
  if path = [] ∨ path.head? = some '/' then path else '/' :: path

theorem toList_rooted (path : String) : (rooted path).toList = rootedChars path.toList := by
  have hslash : "/".toList = ['/'] := rfl
  have hstarts : path.startsWith "/" = true ↔ path.toList.head? = some '/' := by
    rw [String.startsWith_string_iff, hslash]
    cases path.toList with
    | nil => simp
    | cons c cs => simp [List.cons_prefix_cons, eq_comm]
  have hempty : path.isEmpty = true ↔ path.toList = [] := by
    rw [String.isEmpty_iff, String.toList_eq_nil_iff]
  unfold rooted rootedChars
  simp only [Bool.or_eq_true, hstarts, hempty]
  split
  · rfl
  · rw [String.toList_append, hslash]
    rfl

/-- What stands behind the path starts with a mark that ends it. -/
theorem head?_behind (query fragment : Option String) :
    ∀ c ∈ (marked "?" query ++ marked "#" fragment).toList.head?, endsPath c = true := by
  have hmarked (mark : String) (part : Option String) :
      (marked mark part).toList = [] ∨ ∃ text, (marked mark part).toList = mark.toList ++ text := by
    unfold marked
    split
    · split
      · exact .inl rfl
      · rename_i text _
        exact .inr ⟨text.toList, String.toList_append⟩
    · exact .inl rfl
  intro c hc
  rw [String.toList_append] at hc
  rcases hmarked "?" query with hq | ⟨text, hq⟩
  · rcases hmarked "#" fragment with hf | ⟨text, hf⟩
    · rw [hq, hf] at hc
      cases hc
    · rw [hq, hf] at hc
      cases hc
      rfl
  · rw [hq] at hc
    cases hc
    rfl

/-- The parts of an address of the web, one behind the other. -/
theorem OfWeb.toList_text {a : Address} (h : a.OfWeb) :
    a.text.toList = a.scheme.toList ++ ':' :: '/' :: '/' :: (a.authority.toList
      ++ (rootedChars (a.path.getD "").toList
        ++ (marked "?" a.query ++ marked "#" a.fragment).toList)) := by
  have hscheme : a.scheme.isEmpty = false := by
    rcases h.scheme with hs | hs
    · rw [hs]
      rfl
    · rw [hs]
      rfl
  have hcolon : ":".toList = [':'] := rfl
  have hslashes : "//".toList = ['/', '/'] := rfl
  unfold Address.text
  simp only [h.showsAuthority, hscheme, if_true, Bool.false_eq_true, if_false, String.toList_append,
    toList_rooted, hcolon, hslashes, List.append_assoc, List.cons_append, List.nil_append]

/-- A path with a leading slash is empty, or starts with one. -/
theorem head?_rootedChars (path : List Char) : ∀ c ∈ (rootedChars path).head?, c = '/' := by
  intro c hc
  unfold rootedChars at hc
  split at hc
  · rename_i h
    rcases h with rfl | h
    · cases hc
    · rw [h] at hc
      exact (Option.some.inj hc).symm
  · exact (Option.some.inj hc).symm

theorem mem_rootedChars {path : List Char} {c : Char} (h : c ∈ rootedChars path) :
    c = '/' ∨ c ∈ path := by
  unfold rootedChars at h
  split at h
  · exact .inr h
  · exact List.mem_cons.mp h

/-- **The path that is sent** is the path of the address with a leading slash, or nothing. -/
theorem OfWeb.pathIn_text {a : Address} (h : a.OfWeb) :
    pathIn a.text.toList = rootedChars (a.path.getD "").toList := by
  have hscheme : ':' ∉ a.scheme.toList := by
    rcases h.scheme with hs | hs
    · rw [hs]
      decide
    · rw [hs]
      decide
  have hpath : ∀ c ∈ rootedChars (a.path.getD "").toList, (!endsPath c) = true := by
    intro c hc
    rcases mem_rootedChars hc with rfl | hc
    · rfl
    · rw [h.path c hc]
      rfl
  have hauthority : ∀ c ∈ a.authority.toList, (c != '/' && !endsPath c) = true := by
    intro c hc
    obtain ⟨hne, hend⟩ := h.authority c hc
    rw [hend, bne_iff_ne.mpr hne]
    rfl
  have hbehind := head?_behind a.query a.fragment
  rw [h.toList_text]
  generalize (marked "?" a.query ++ marked "#" a.fragment).toList = behind at hbehind ⊢
  -- the authority ends where the path starts, or what stands behind it
  have hstart : (rootedChars (a.path.getD "").toList ++ behind).dropWhile
      (fun c => c != '/' && !endsPath c) = rootedChars (a.path.getD "").toList ++ behind := by
    have hhead := head?_rootedChars (a.path.getD "").toList
    cases hrooted : rootedChars (a.path.getD "").toList with
    | nil =>
      cases behind with
      | nil => rfl
      | cons c cs => simp [hbehind c rfl]
    | cons c cs =>
      rw [hrooted] at hhead
      rw [hhead c rfl]
      rfl
  have hstop : behind.takeWhile (fun c => !endsPath c) = [] := by
    cases behind with
    | nil => rfl
    | cons c cs => simp [hbehind c rfl]
  unfold pathIn
  rw [cut_of_not_mem hscheme]
  show ((a.authority.toList ++ (rootedChars (a.path.getD "").toList ++ behind)).dropWhile
    fun c => c != '/' && !endsPath c).takeWhile _ = _
  rw [List.dropWhile_append_of_pos hauthority, hstart, List.takeWhile_append_of_pos hpath, hstop,
    List.append_nil]

end SigV4.Address

namespace SigV4.Path

open Text

/-! ## Leading slashes -/

/-- A path is written with a leading slash IF AND ONLY IF it has one. -/
theorem head?_writePath (twice : Bool) (path : List Char) :
    (writePath twice path).head? = some '/' ↔ path.head? = some '/' := by
  cases path with
  | nil =>
    rw [(writePath_eq_nil_iff twice []).mpr rfl]
  | cons c cs =>
    by_cases hc : c = '/'
    · subst hc
      rw [writePath_slash]
      exact iff_of_true rfl rfl
    · refine iff_of_false ?_ ?_
      · intro hhead
        obtain ⟨rest, hrest⟩ := List.head?_eq_some_iff.mp hhead
        -- a slash in front has an empty segment before it, and the first one is not empty
        obtain ⟨piece, pieces, -, hsplit⟩ := split_cons_of_ne hc cs
        have hpieces := split_writePath twice (c :: cs)
        rw [hrest, split_sep, hsplit, List.map_cons] at hpieces
        have hnil := (List.cons.inj hpieces).1
        exact List.cons_ne_nil c piece ((writeSegment_eq_nil_iff twice (c :: piece)).mp hnil.symm)
      · intro hhead
        exact hc (Option.some.inj hhead)

theorem rootedSegments_of_ne {path : List Char} (h : path.head? ≠ some '/') :
    rootedSegments path = keptSegments path :=
  if_neg h

/-- What is left starts with what stands at the root. -/
theorem leftSegments_of_cons {path first : List Char} {rest : List (List Char)}
    (h : rootedSegments path = first :: rest) :
    leftSegments path = first :: if endsInDots (split '/' path) then rest ++ [[]] else rest := by
  unfold leftSegments
  rw [h]
  show (if endsInDots (split '/' path) then first :: (rest ++ [[]]) else first :: rest) = _
  split
  · rfl
  · rfl

theorem leftSegments_of_nil {path : List Char} (h : rootedSegments path = []) :
    leftSegments path = [] := by
  unfold leftSegments
  rw [h]
  rfl

/-- The clean path, from the segments that are left. -/
theorem cleanPath_eq {path : List Char} (h : path ≠ []) :
    cleanPath path true = orRoot (squeeze (join '/' (leftSegments path))) := by
  rw [cleanPath_normalize, orRoot_of_ne_nil h]
  rfl

/-- An empty first segment is A LEADING SLASH. -/
theorem head?_orRoot_join (segments : List (List Char)) :
    (orRoot (squeeze (join '/' ([] :: segments)))).head? = some '/' := by
  cases segments with
  | nil => rfl
  | cons next rest =>
    have hhead : (squeeze (join '/' ([] :: next :: rest))).head? = some '/' := by
      rw [head?_squeeze]
      rfl
    have hne : squeeze (join '/' ([] :: next :: rest)) ≠ [] := by
      intro hnil
      rw [hnil] at hhead
      cases hhead
    rw [orRoot_of_ne_nil hne, hhead]

/-- A second empty segment before the others changes nothing. -/
theorem orRoot_join_twice (segments : List (List Char)) :
    orRoot (squeeze (join '/' ([] :: [] :: segments))) = orRoot (squeeze (join '/' ([] :: segments))) := by
  cases segments with
  | nil => rfl
  | cons next rest =>
    rw [join_cons '/' [] (List.cons_ne_nil [] (next :: rest)),
      join_cons '/' [] (List.cons_ne_nil next rest)]
    show orRoot (squeeze ('/' :: '/' :: join '/' (next :: rest))) = _
    rw [squeeze]
    rfl

/-- **A leading slash stays** when a path is cleaned. -/
theorem head?_cleanPath_slash (path : List Char) (normalize : Bool) :
    (cleanPath ('/' :: path) normalize).head? = some '/' := by
  cases normalize with
  | false => rfl
  | true =>
    have hroot : ∃ rest, rootedSegments ('/' :: path) = [] :: rest := by
      obtain ⟨hslip, hroot⟩ := rootedSegments_slash path
      by_cases h : Slips path
      · obtain ⟨rest, hrest⟩ := List.head?_eq_some_iff.mp h.2
        exact ⟨rest, (hslip h).trans hrest⟩
      · exact ⟨keptSegments path, hroot h⟩
    obtain ⟨rest, hrest⟩ := hroot
    rw [cleanPath_eq (List.cons_ne_nil '/' path), leftSegments_of_cons hrest]
    exact head?_orRoot_join _

/-- Whether the path that is encoded starts with a slash: it is empty, or starts with one, or it is
normalised and NO NAME is the first of the segments that are kept. -/
def IsAnchored (path : List Char) (normalize : Bool) : Prop :=
  path = [] ∨ path.head? = some '/' ∨ (normalize = true ∧ (keptSegments path).headD [] = [])

/-- A path that starts with no slash has one when it is cleaned IF AND ONLY IF no name is kept first. -/
theorem head?_cleanPath_iff {path : List Char} (hne : path ≠ []) (hhead : path.head? ≠ some '/') :
    (cleanPath path true).head? = some '/' ↔ (keptSegments path).headD [] = [] := by
  have hroot := rootedSegments_of_ne hhead
  rw [cleanPath_eq hne]
  cases hkept : keptSegments path with
  | nil =>
    rw [leftSegments_of_nil (hroot.trans hkept)]
    exact iff_of_true rfl rfl
  | cons first rest =>
    rw [leftSegments_of_cons (hroot.trans hkept)]
    generalize (if endsInDots (split '/' path) then rest ++ [[]] else rest) = more
    cases first with
    | nil => exact iff_of_true (head?_orRoot_join more) rfl
    | cons c cs =>
      have hmem : c :: cs ∈ keptSegments path := by
        rw [hkept]
        exact List.mem_cons_self
      have hslash := (remains_of_mem_keptSegments hmem).not_mem
      refine iff_of_false ?_ (List.cons_ne_nil c cs)
      have hjoin : (join '/' ((c :: cs) :: more)).head? = some c := by
        cases more with
        | nil => rfl
        | cons next after => rfl
      have hleft : (squeeze (join '/' ((c :: cs) :: more))).head? = some c := by
        rw [head?_squeeze, hjoin]
      have hnil : squeeze (join '/' ((c :: cs) :: more)) ≠ [] := by
        intro hnil
        rw [hnil] at hleft
        cases hleft
      rw [orRoot_of_ne_nil hnil, hleft]
      intro he
      exact hslash ((Option.some.inj he) ▸ List.mem_cons_self)

/-- A path that ends in a dot segment does so behind a leading slash. -/
theorem endsInDots_cons {first : List Char} {segments : List (List Char)}
    (h : 2 ≤ segments.length) : endsInDots (first :: segments) = endsInDots segments := by
  match segments, h with
  | a :: b :: rest, _ =>
    have hlong : (2 : Nat) ≤ (first :: a :: b :: rest).length := by
      simp only [List.length_cons]
      omega
    have hshort : (2 : Nat) ≤ (a :: b :: rest).length := by
      simp only [List.length_cons]
      omega
    rw [endsInDots, endsInDots, decide_eq_true hlong, decide_eq_true hshort,
      List.getLast?_cons_cons]

/-- Where an empty segment is kept of a path that starts with a name, the path has TWO SEGMENTS at least. -/
theorem two_le_length_split {path : List Char} (hne : path ≠ []) (hhead : path.head? ≠ some '/')
    (hkept : [] ∈ keptSegments path) : 2 ≤ (split '/' path).length := by
  obtain ⟨c, cs, rfl⟩ := List.exists_cons_of_ne_nil hne
  have hc : c ≠ '/' := fun he => hhead (congrArg some he)
  obtain ⟨piece, pieces, -, hsplit⟩ := split_cons_of_ne hc cs
  rcases mem_keepSegments (List.mem_reverse.mp hkept) with h | ⟨h, -⟩
  · exact absurd h List.not_mem_nil
  · rw [hsplit] at h ⊢
    rcases List.mem_cons.mp h with h | h
    · cases h
    · have hpos := List.length_pos_of_mem h
      rw [List.length_cons]
      omega

/-- **Where no name is kept first, a leading slash MAKES NO DIFFERENCE.** -/
theorem cleanPath_slash {path : List Char} (hne : path ≠ []) (hhead : path.head? ≠ some '/')
    (hkept : (keptSegments path).headD [] = []) :
    cleanPath ('/' :: path) true = cleanPath path true := by
  have hroot := rootedSegments_of_ne hhead
  rw [cleanPath_eq hne, cleanPath_eq (List.cons_ne_nil '/' path)]
  cases hk : keptSegments path with
  | nil =>
    -- nothing is left but the root
    rw [leftSegments_of_nil (hroot.trans hk)]
    have hslash : rootedSegments ('/' :: path) = [[]] := by
      have hslips : ¬Slips path := by
        rintro ⟨-, h⟩
        rw [hk] at h
        cases h
      rw [(rootedSegments_slash path).2 hslips, hk]
    rw [leftSegments_of_cons hslash]
    split
    · rfl
    · rfl
  | cons first rest =>
    rw [hk] at hkept
    obtain rfl : first = [] := hkept
    have hmem : [] ∈ keptSegments path := by
      rw [hk]
      exact List.mem_cons_self
    have hends : endsInDots (split '/' ('/' :: path)) = endsInDots (split '/' path) := by
      rw [split_sep]
      exact endsInDots_cons (two_le_length_split hne hhead hmem)
    rw [leftSegments_of_cons (hroot.trans hk)]
    obtain ⟨hslip, hmarked⟩ := rootedSegments_slash path
    by_cases hslips : Slips path
    · have h := hslip hslips
      rw [hk] at h
      rw [leftSegments_of_cons h, hends]
    · -- both markers stand there, and one is squeezed out
      have h := hmarked hslips
      rw [hk] at h
      have hleft : leftSegments ('/' :: path)
          = [] :: [] :: if endsInDots (split '/' path) then rest ++ [[]] else rest := by
        rw [leftSegments_of_cons h, hends]
        split
        · rfl
        · rfl
      rw [hleft]
      exact orRoot_join_twice _

/-! ## Both paths -/

/-- A path that is cleaned starts with a slash IF AND ONLY IF it is anchored. -/
theorem head?_cleanPath (path : List Char) (normalize : Bool) :
    (cleanPath path normalize).head? = some '/' ↔ IsAnchored path normalize := by
  by_cases hne : path = []
  · subst hne
    refine iff_of_true ?_ (.inl rfl)
    cases normalize with
    | false => rfl
    | true => rfl
  by_cases hhead : path.head? = some '/'
  · obtain ⟨rest, rfl⟩ := List.head?_eq_some_iff.mp hhead
    exact iff_of_true (head?_cleanPath_slash rest normalize) (.inr (.inl rfl))
  · have hanchored : IsAnchored path normalize
        ↔ normalize = true ∧ (keptSegments path).headD [] = [] := by
      unfold IsAnchored
      rw [or_iff_right hne, or_iff_right hhead]
    rw [hanchored]
    cases normalize with
    | false =>
      have hclean : cleanPath path false = path := orRoot_of_ne_nil hne
      rw [hclean]
      exact iff_of_false hhead fun h => nomatch h.1
    | true =>
      rw [head?_cleanPath_iff hne hhead]
      exact (and_iff_right rfl).symm

/-- With its leading slash an anchored path is cleaned to the same. -/
theorem cleanPath_rootedChars {path : List Char} {normalize : Bool} (h : IsAnchored path normalize) :
    cleanPath (Address.rootedChars path) normalize = cleanPath path normalize := by
  unfold Address.rootedChars
  split
  · rfl
  · rename_i hnot
    rw [not_or] at hnot
    rcases h with h | h | ⟨rfl, h⟩
    · exact absurd h hnot.1
    · exact absurd h hnot.2
    · exact cleanPath_slash hnot.1 hnot.2 h

end SigV4.Path

namespace SigV4.Address

open SigV4.Path

/-- **The path that is sent and the path that is signed.**  Of an address of the web the path that is sent
is always signed with a leading slash.  The path of the address is signed the same if and only if it is
signed with a leading slash too, and that is so if and only if it is anchored: empty, with a leading slash
of its own, or normalised with no name kept first. -/
theorem canonicalPath_sent {a : Address} (h : a.OfWeb) (twice normalize : Bool) :
    let signed := canonicalPath a.path twice normalize
    let sent := canonicalPath (some a.sentPath) twice normalize
    sent.toList.head? = some '/'
      ∧ (signed = sent ↔ signed.toList.head? = some '/')
      ∧ (signed.toList.head? = some '/' ↔ IsAnchored (charsOf a.path) normalize) := by
  intro signed sent
  have hchars : charsOf a.path = (a.path.getD "").toList := by
    cases a.path with
    | none => rfl
    | some path => rfl
  have hsigned : signed.toList.head? = some '/' ↔ IsAnchored (charsOf a.path) normalize := by
    rw [toList_canonicalPath, head?_writePath, head?_cleanPath]
  have hsentPath : charsOf (some a.sentPath) = rootedChars (charsOf a.path) := by
    rw [hchars, ← h.pathIn_text]
    exact String.toList_ofList
  have hsent : sent.toList.head? = some '/' := by
    rw [toList_canonicalPath, head?_writePath, head?_cleanPath, hsentPath]
    unfold rootedChars
    split
    · rename_i hor
      rcases hor with hnil | hhead
      · exact .inl hnil
      · exact .inr (.inl hhead)
    · exact .inr (.inl rfl)
  refine ⟨hsent, ?_, hsigned⟩
  constructor
  · intro heq
    rw [heq]
    exact hsent
  · intro hhead
    show canonicalPath a.path twice normalize = canonicalPath (some a.sentPath) twice normalize
    rw [canonicalPath_eq, canonicalPath_eq, hsentPath, cleanPath_rootedChars (hsigned.mp hhead)]

/-- A path that climbs above the root and is left with an empty segment first. -/
theorem canonicalPath_sent_above_root :
    let a : Address := { host := "example.com", port := some 8443, path := some "..//a%2fb",
                         query := some "to=/?" }
    a.OfWeb ∧ canonicalPath a.path false true = canonicalPath (some a.sentPath) false true := by
  intro a
  have h : a.OfWeb := by decide
  obtain ⟨-, hsame, hslash⟩ := canonicalPath_sent h false true
  have hanchored : IsAnchored (charsOf a.path) true := .inr (.inr ⟨rfl, by decide⟩)
  exact ⟨h, hsame.mpr (hslash.mpr hanchored)⟩

/-- A path without a leading slash IS SENT WITH ONE AND SIGNED WITHOUT. -/
theorem canonicalPath_sent_not_bare :
    let a : Address := { host := "example.com", path := some "a/b" }
    a.OfWeb ∧ canonicalPath a.path false true = "a/b"
      ∧ canonicalPath (some a.sentPath) false true = "/a/b" := by
  intro a
  have h : a.OfWeb := by decide
  have hsent : a.sentPath = "/a/b" := by
    rw [sentPath, h.pathIn_text]
    decide
  rw [hsent]
  exact ⟨h, by decide, by decide⟩

end SigV4.Address
