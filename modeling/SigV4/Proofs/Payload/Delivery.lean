/-
  DELIVERY: a framed payload delivers ITS FRAMING, however it is read.

  1. **Portions** — what reads of given sizes make of some bytes, and what can be said of it: nothing
     is lost or exchanged, an empty answer comes only at the end, and only the last answer is short.
  2. **Runs** — `Body.readEach` reads one size after the other.  `Body.Delivers` says that a whole
     iteration, a read without a size and every run of reads by size yield the SAME bytes.
  3. **Framing** — `frame_delivers`: every body that does not fail, framed with its own length, delivers
     its slices and one empty chunk, each signed behind the one before it.
  4. **The limit** — a buffer cannot be asked for a chunk whose size it cannot count
     (`frame_uncountable`), however short the payload is.
-/
import SigV4.Proofs.Payload.Contents
import SigV4.Proofs.Payload.Failure

namespace SigV4

namespace Framing

/-! ## Portions -/

/-- What reads of the given sizes deliver of some bytes, one after the other. -/
def portions : List Nat → Bytes → List Bytes
  | [], _ => []
  | size :: sizes, bytes => bytes.take size :: portions sizes (bytes.drop size)

/-- `parts` is what reads of the given sizes deliver of `whole`. -/
structure IsReading (whole : Bytes) (sizes : List Nat) (parts : List Bytes) : Prop where
  /-- There is an answer to every read. -/
  length_eq : parts.length = sizes.length
  /-- Nothing is lost, repeated or exchanged. -/
  isPrefix : parts.flatten <+: whole
  /-- An empty answer comes only at the end. -/
  complete : [] ∈ parts → parts.flatten = whole
  /-- Who goes on reading comes to the end. -/
  ends : whole.length < parts.length → [] ∈ parts
  /-- An answer with bytes behind it has as many as were asked for. -/
  full : ∀ (i j : Nat) (part : Bytes), i < j → parts[j]? = some part → part ≠ [] →
    parts[i]?.map List.length = sizes[i]?

theorem length_portions (sizes : List Nat) (whole : Bytes) :
    (portions sizes whole).length = sizes.length := by
  induction sizes generalizing whole with
  | nil => rfl
  | cons size sizes ih => rw [portions, List.length_cons, ih, List.length_cons]

theorem flatten_portions_isPrefix (sizes : List Nat) (whole : Bytes) :
    (portions sizes whole).flatten <+: whole := by
  induction sizes generalizing whole with
  | nil => exact List.nil_prefix
  | cons size sizes ih =>
    obtain ⟨rest, hrest⟩ := ih (whole.drop size)
    refine ⟨rest, ?_⟩
    rw [portions, List.flatten_cons, List.append_assoc, hrest, List.take_append_drop]

theorem eq_nil_of_mem_portions_nil {sizes : List Nat} {part : Bytes}
    (h : part ∈ portions sizes []) : part = [] := by
  induction sizes with
  | nil => cases h
  | cons size sizes ih =>
    rw [portions, List.take_nil, List.drop_nil] at h
    rcases List.mem_cons.mp h with h | h
    · exact h
    · exact ih h

/-- AN EMPTY ANSWER comes only where everything was delivered. -/
theorem flatten_portions_of_nil_mem {sizes : List Nat} (h1 : ∀ size ∈ sizes, 1 ≤ size)
    {whole : Bytes} (h : [] ∈ portions sizes whole) : (portions sizes whole).flatten = whole := by
  induction sizes generalizing whole with
  | nil => cases h
  | cons size sizes ih =>
    rw [portions, List.flatten_cons]
    rcases List.mem_cons.mp h with h | h
    · -- the first answer is empty, so there was nothing to read
      have hsize := h1 size List.mem_cons_self
      have hw : whole = [] := (List.take_eq_nil_iff.mp h.symm).resolve_left (by omega)
      have hp := flatten_portions_isPrefix sizes (whole.drop size)
      rw [hw, List.drop_nil] at hp
      rw [hw, List.take_nil, List.drop_nil, List.nil_append]
      exact List.prefix_nil.mp hp
    · rw [ih (fun n hn => h1 n (List.mem_cons_of_mem _ hn)) h, List.take_append_drop]

/-- Answers that are not empty take AT LEAST A BYTE EACH, so there are no more of them than bytes. -/
theorem nil_mem_portions {sizes : List Nat} {whole : Bytes} (h : whole.length < sizes.length) :
    [] ∈ portions sizes whole := by
  induction sizes generalizing whole with
  | nil => cases h
  | cons size sizes ih =>
    rw [portions]
    by_cases ht : whole.take size = []
    · rw [ht]
      exact List.mem_cons_self
    · refine List.mem_cons_of_mem _ (ih ?_)
      have hpos := List.length_pos_iff.mpr ht
      rw [List.length_take] at hpos
      rw [List.length_cons] at h
      rw [List.length_drop]
      omega

theorem full_portions (sizes : List Nat) (whole : Bytes) (i j : Nat) (part : Bytes) (hij : i < j)
    (hj : (portions sizes whole)[j]? = some part) (hne : part ≠ []) :
    (portions sizes whole)[i]?.map List.length = sizes[i]? := by
  induction sizes generalizing whole i j with
  | nil => cases hj
  | cons size sizes ih =>
    obtain ⟨k, rfl⟩ : ∃ k, j = k + 1 := ⟨j - 1, by omega⟩
    rw [portions, List.getElem?_cons_succ] at hj
    cases i with
    | zero =>
      -- bytes behind the first answer were left by it
      have hd : whole.drop size ≠ [] := by
        intro hd
        rw [hd] at hj
        exact hne (eq_nil_of_mem_portions_nil (List.mem_of_getElem? hj))
      have := List.length_pos_iff.mpr hd
      rw [List.length_drop] at this
      show some (whole.take size).length = some size
      rw [List.length_take, Nat.min_eq_left (by omega)]
    | succ i =>
      rw [portions, List.getElem?_cons_succ, List.getElem?_cons_succ]
      exact ih _ i k (by omega) hj

theorem isReading_portions {sizes : List Nat} (h1 : ∀ size ∈ sizes, 1 ≤ size) (whole : Bytes) :
    IsReading whole sizes (portions sizes whole) where
  length_eq := length_portions sizes whole
  isPrefix := flatten_portions_isPrefix sizes whole
  complete := flatten_portions_of_nil_mem h1
  ends h := nil_mem_portions (length_portions sizes whole ▸ h)
  full := full_portions sizes whole

end Framing

/-! ## Runs -/

namespace Body

/-- **Reads the sizes,** one after the other. -/
def readEach : List Nat → Body → Outcome Body (List Bytes)
  | [], body => ⟨.ok [], body, []⟩
  | size :: sizes, body =>
    match body.read? (some size) with
    | some o => o.andThen fun bs next => (readEach sizes next).map (bs :: ·)
    | none => ⟨.error .sourceUnusable, body, []⟩

/-- **A body that yields the same bytes however it is read.** -/
structure Delivers (items : List Bytes) (body : Body) : Prop where
  /-- By a whole iteration. -/
  iterated : ∃ o, body.items? = some o ∧ o.result = .ok items
  /-- By a read without a size, or with a negative one. -/
  whole : ∀ size : Option Int, Framed.isWhole size = true →
    ∃ o, body.read? size = some o ∧ o.result = .ok items.flatten
  /-- By reads of any sizes. -/
  sized : ∀ sizes : List Nat, (∀ size ∈ sizes, 1 ≤ size) →
    ∃ parts, (body.readEach sizes).result = .ok parts
      ∧ Framing.IsReading items.flatten sizes parts

/-- A body of which a read of everything FAILS delivers nothing. -/
theorem not_delivers_of_error {body : Body} {o : Outcome Body Bytes} {e : Fault}
    (hread : body.read? none = some o) (herror : o.result = .error e) (items : List Bytes) :
    ¬body.Delivers items := by
  intro hdelivers
  obtain ⟨o', ho', hok⟩ := hdelivers.whole none rfl
  rw [hread] at ho'
  rw [← Option.some.inj ho', herror] at hok
  cases hok

theorem readEach_steady (sizes : List Nat) {depth : Nat} {p : Framed (Layer depth)}
    (h : p.Exact) (hs : p.Steady) :
    (readEach sizes (framed depth p)).result = .ok (Framing.portions sizes p.remaining) := by
  induction sizes generalizing p with
  | nil => rfl
  | cons size sizes ih =>
    have hread : p.read (some (size : Int)) = p.readSized size :=
      Framed.read_sized (by simp [Framed.isWhole]) p
    obtain ⟨hr, hn⟩ := Framed.readSized_steady size h hs
    obtain ⟨hx, ht⟩ := Framed.readSized_takes size h
    rw [hr] at ht
    -- the run goes on with what the first read has left
    have hrest := ih hx hn
    rw [ht.2] at hrest
    show (((p.read (some (size : Int))).within (framed depth)).andThen _).result = _
    rw [hread, Outcome.andThen, Outcome.result_within, hr]
    show ((readEach sizes (framed depth (p.readSized size).next)).result.map _) = _
    rw [hrest]
    rfl

/-- A framed payload of which nothing has been read DELIVERS ITS FRAMES. -/
theorem delivers_begun {signer : ChunkSigner} {size : Nat} {payload : Bytes} {depth : Nat}
    {p : Framed (Layer depth)} (h : p.Begun signer size payload) (hs : p.Steady) :
    (framed depth p).Delivers (Framing.ofPayload signer size payload) := by
  have hitems : p.items.result = .ok (Framing.ofPayload signer size payload) := by
    rw [Framed.items_eq_frames h.pending, Framed.frames_steady h.exact hs, h.framesLeft]
  refine ⟨⟨_, rfl, hitems⟩, ?_, ?_⟩
  · intro n hn
    refine ⟨_, rfl, ?_⟩
    show (p.read n).result = _
    rw [Framed.read_whole hn, Outcome.result_map, hitems]
    rfl
  · intro sizes h1
    refine ⟨_, readEach_steady sizes h.exact hs, ?_⟩
    rw [h.remaining]
    exact Framing.isReading_portions h1 _

/-! ## Framing -/

/-- **A body that does not fail, framed with its own length, delivers the framing of its bytes:** its
slices and one empty chunk, each signed behind the one before it. -/
theorem frame_delivers {body : Body} {signer : ChunkSigner} {chunkSize : Int}
    (hsize : 1 ≤ chunkSize) (hsigner : signer.state ≠ .terminal) (hh : body.Honest)
    (hu : body.Unfailing chunkSize.toNat) :
    ∃ (out : Body) (parts : List Bytes),
      body.frame signer chunkSize body.rest.length = .ok out
        ∧ Framing.IsCut chunkSize.toNat body.rest parts
        ∧ out.Delivers (Framing.row signer.key signer.timestamp signer.scope signer.previous
            (parts ++ [[]])) := by
  obtain ⟨depth, p, hf, hb, hs⟩ := frame_begun hu.readable hh hsigner hsize
  have h0 : 0 < chunkSize.toNat := by omega
  exact ⟨framed depth p, _, hf, Framing.isCut_slices h0 body.rest, delivers_begun hb (hs hu)⟩

/-- A stream that delivers one or two bytes at a time. -/
theorem frame_delivers_halting_stream :
    let signer : ChunkSigner := ⟨[1, 2], "20150830/us-east-1/s3/aws4_request", "20150830T123600Z",
      "seed", .ready, 0⟩
    let body : Body := .stream
      ⟨.sync, none, none, [10, 20, 30, 40, 50], 0, fun k => some (k % 2 + 1), fun _ => false, [], []⟩
    (1 ≤ (2 : Int) ∧ signer.state ≠ .terminal ∧ body.Honest ∧ body.Unfailing (2 : Int).toNat)
      ∧ ∃ (out : Body) (parts : List Bytes),
        body.frame signer 2 body.rest.length = .ok out
          ∧ Framing.IsCut (2 : Int).toNat body.rest parts
          ∧ out.Delivers (Framing.row signer.key signer.timestamp signer.scope signer.previous
              (parts ++ [[]])) := by
  intro signer body
  have hsigner : signer.state ≠ .terminal := by decide
  have hh : body.Honest := by
    intro k
    show some (k % 2 + 1) ≠ some 0
    simp
  have hu : body.Unfailing (2 : Int).toNat := ⟨rfl, fun _ => rfl⟩
  exact ⟨⟨by decide, hsigner, hh, hu⟩, frame_delivers (by decide) hsigner hh hu⟩

end Body

/-! ## The limit -/

namespace Body

/-- **A buffer cannot be asked for a chunk whose size it cannot count:** every read fails. -/
theorem frame_uncountable {body : Body} {b : Buffer} (hfeed : body.feed? = some (.direct (.buffer b)))
    (hopen : b.closed = false) {signer : ChunkSigner} (hsigner : signer.state ≠ .terminal)
    {chunkSize : Int} (hsize : 1 ≤ chunkSize)
    (hcount : Buffer.isCountable (some chunkSize) = false) (declared : Int) :
    ∃ out, body.frame signer chunkSize declared = .ok out
      ∧ ∀ size, size ≠ some 0 →
        ∃ o, out.read? size = some o ∧ o.result = .error .pastWord := by
  have hc : ((chunkSize.toNat : Nat) : Int) = chunkSize := Int.toNat_of_nonneg (by omega)
  have hread : b.read (some ((chunkSize.toNat : Nat) : Int)) = .error .pastWord := by
    simp [Buffer.read, hopen, hc, hcount]
  have hne : chunkSize ≠ 0 := by omega
  obtain ⟨total, hs⟩ := Framed.start_eq_ok hne (Feed.direct (.buffer b)) signer declared
  let p : Framed Feed :=
    ⟨.direct (.buffer b), false, [], chunkSize, signer, declared, total, 0, []⟩
  have hheld : p.held.length < p.cutSize := by
    show 0 < chunkSize.toNat
    omega
  have hpull : (Supply.pull p.cutSize p.feed).result = .error .pastWord := by
    show (Source.pull chunkSize.toNat (.buffer b)).result = _
    simp only [Source.pull, hread]
  have hnext := Framed.nextFrame_eq_error hsigner rfl hheld hpull
  exact ⟨framed 0 p, frame_of_feed hfeed hs, fun size h0 =>
    ⟨_, rfl, Framed.read_eq_error rfl hnext size h0⟩⟩

/-- FIVE BYTES IN MEMORY are not delivered in chunks of 2⁶³ bytes. -/
theorem frame_delivers_nothing_past_word :
    let signer : ChunkSigner := ⟨[1, 2], "20150830/us-east-1/s3/aws4_request", "20150830T123600Z",
      "seed", .ready, 0⟩
    let body : Body := .bytes [104, 101, 108, 108, 111]
    ∃ out, body.frame signer 9223372036854775808 body.rest.length = .ok out
      ∧ (∃ o, out.read? none = some o ∧ o.result = .error .pastWord)
      ∧ ¬∃ parts, out.Delivers (Framing.row signer.key signer.timestamp signer.scope
          signer.previous (parts ++ [[]])) := by
  intro signer body
  have hfeed : body.feed? = some (.direct (.buffer (.ofBytes [104, 101, 108, 108, 111]))) := rfl
  have hsigner : signer.state ≠ .terminal := by decide
  have hsize : 1 ≤ (9223372036854775808 : Int) := by decide
  have hcount : Buffer.isCountable (some 9223372036854775808) = false := by decide
  obtain ⟨out, hf, hr⟩ :=
    frame_uncountable hfeed rfl hsigner hsize hcount (body.rest.length : Int)
  obtain ⟨o, hread, herror⟩ := hr none (by simp)
  exact ⟨out, hf, ⟨o, hread, herror⟩, fun ⟨_, hd⟩ => not_delivers_of_error hread herror _ hd⟩

end Body

end SigV4
