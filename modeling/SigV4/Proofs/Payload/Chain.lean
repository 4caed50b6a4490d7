/-
  THE CHAIN of a signer: where it stands after any row of calls, and what it has handed out by then.

  1. **Calls** — `call` is one call as its owner sees it: the frame or the refusal, and the signer to go on
     with, which is the same one where a chunk is refused.  `callEach` makes a row of calls.
  2. **A call** — `call_cases`: a signer that has not come to its end takes the chunk, whatever it is; one
     that has refuses it, whatever it is.
  3. **A row of calls** — the chunks that are taken are those up to the first empty one, and that (`taken`);
     the frames are the row of them, and the signer is the one behind them (`callEach_eq`).
  4. **The chain** — `callEach_linked`: state, signature and count are read off the chunks, and every
     signature off the frames, as a receiver decodes them.

  The crux is that `previous` links two things that are kept apart, the frames that were handed out and the
  signer: both are the same fold over the same chunks (`previous_foldl`, `getElem?_row`).
-/
import SigV4.Outcome
import SigV4.Proofs.Payload.Receiving

namespace SigV4

/-! ## Calls -/

namespace ChunkSigner

/-- **One call:** the frame of the chunk or why there is none, and the signer behind it. -/
def call (s : ChunkSigner) (chunk : Bytes) : Outcome ChunkSigner Bytes :=
  match s.sign chunk with
  | .ok signed => ⟨.ok signed.frame, signed.signer, [signed.notice]⟩
  | .error e => ⟨.error e, s, []⟩

/-- One call after the other, and the signer behind the last. -/
def callEach : List Bytes → ChunkSigner → List (Except Fault Bytes) × ChunkSigner
  | [], s => ([], s)
  | chunk :: chunks, s =>
    let later := callEach chunks (s.call chunk).next
    ((s.call chunk).result :: later.1, later.2)

/-- The frames among some answers. -/
def framesIn (answers : List (Except Fault Bytes)) : List Bytes := answers.filterMap Except.toOption

/-- The chunks up to the first empty one, and that. -/
def taken : List Bytes → List Bytes
  | [] => []
  | chunk :: chunks => if chunk = [] then [chunk] else chunk :: taken chunks

/-! ## A call -/

/-- **What a call can do:** it signs the chunk, or it refuses it and leaves the signer as it was. -/
theorem call_cases (s : ChunkSigner) (chunk : Bytes) :
    (s.state ≠ .terminal ∧ (s.call chunk).result = .ok (frame (s.signatureOf chunk) chunk)
        ∧ (s.call chunk).next = s.advance chunk)
      ∨ (s.state = .terminal ∧ s.call chunk = ⟨.error .chunkAfterTerminal, s, []⟩) := by
  by_cases hs : s.state = .terminal
  · refine Or.inr ⟨hs, ?_⟩
    rw [call, sign, if_pos hs]
  · refine Or.inl ⟨hs, ?_⟩
    rw [call, sign, if_neg hs]
    exact ⟨rfl, rfl⟩

/-! ## A row of calls -/

/-- At its end a signer refuses every chunk, and STAYS AS IT IS. -/
theorem callEach_terminal {s : ChunkSigner} (hs : s.state = .terminal) (chunks : List Bytes) :
    callEach chunks s = (List.replicate chunks.length (.error .chunkAfterTerminal), s) := by
  induction chunks with
  | nil => rfl
  | cons chunk chunks ih =>
    rcases s.call_cases chunk with ⟨hne, -, -⟩ | ⟨-, hcall⟩
    · exact absurd hs hne
    · rw [callEach, hcall, ih]
      rfl

/-- **A row of calls:** the frames of the chunks that are taken, and a refusal for each of the others. -/
theorem callEach_eq {s : ChunkSigner} (hs : s.state ≠ .terminal) (chunks : List Bytes) :
    callEach chunks s
      = ((Framing.row s.key s.timestamp s.scope s.previous (taken chunks)).map .ok
          ++ List.replicate (chunks.length - (taken chunks).length) (.error .chunkAfterTerminal),
        (taken chunks).foldl advance s) := by
  induction chunks generalizing s with
  | nil => rfl
  | cons chunk chunks ih =>
    rcases s.call_cases chunk with ⟨-, hresult, hnext⟩ | ⟨hterminal, -⟩
    · rw [callEach, hresult, hnext, taken]
      by_cases hchunk : chunk = []
      · have hend : (s.advance chunk).state = .terminal := by
          rw [hchunk]
          rfl
        rw [if_pos hchunk, callEach_terminal hend, Framing.row_cons]
        rfl
      · have hgoes : (s.advance chunk).state ≠ .terminal := by
          simp [advance, hchunk]
        rw [if_neg hchunk, ih hgoes, Framing.row_cons, List.length_cons, List.length_cons,
          Nat.succ_sub_succ]
        rfl
    · exact absurd hterminal hs

/-! ## Where the signer stands -/

/-- The signature behind some chunks: each is made of the one before it and of its chunk, the first of a
seed. -/
def chained (key : Bytes) (timestamp scope seed : String) (chunks : List Bytes) : String :=
  chunks.foldl (fun previous chunk =>
    Hmac.hexDigest key (Utf8.ofString (Framing.text timestamp scope previous chunk))) seed

theorem chained_concat (key : Bytes) (timestamp scope seed : String) (chunks : List Bytes)
    (chunk : Bytes) :
    chained key timestamp scope seed (chunks ++ [chunk])
      = Hmac.hexDigest key (Utf8.ofString
          (Framing.text timestamp scope (chained key timestamp scope seed chunks) chunk)) := by
  rw [chained, List.foldl_append]
  rfl

/-- The signer keeps THE LAST SIGNATURE of the chain. -/
theorem previous_foldl (s : ChunkSigner) (chunks : List Bytes) :
    (chunks.foldl advance s).previous = chained s.key s.timestamp s.scope s.previous chunks := by
  induction chunks generalizing s with
  | nil => rfl
  | cons chunk chunks ih => exact ih (s.advance chunk)

theorem count_foldl (s : ChunkSigner) (chunks : List Bytes) :
    (chunks.foldl advance s).count = s.count + chunks.length := by
  induction chunks generalizing s with
  | nil => rfl
  | cons chunk chunks ih =>
    rw [List.foldl_cons, ih, List.length_cons]
    show s.count + 1 + chunks.length = s.count + (chunks.length + 1)
    omega

/-- The state tells WHETHER THE LAST CHUNK WAS EMPTY. -/
theorem state_foldl_taken {s : ChunkSigner} (hs : s.state ≠ .terminal) (chunks : List Bytes) :
    ((taken chunks).foldl advance s).state
      = if [] ∈ chunks then .terminal else if chunks = [] then s.state else .signing := by
  induction chunks generalizing s with
  | nil => rfl
  | cons chunk chunks ih =>
    rw [taken]
    by_cases hchunk : chunk = []
    · rw [if_pos hchunk, hchunk, if_pos List.mem_cons_self]
      rfl
    · have hstate : (s.advance chunk).state = .signing := by
        simp [advance, hchunk]
      have hgoes : (s.advance chunk).state ≠ .terminal := by
        rw [hstate]
        decide
      rw [if_neg hchunk, List.foldl_cons, ih hgoes, hstate]
      simp [Ne.symm hchunk]

/-! ## What was handed out -/

/-- The frame at a place holds the chunk there, and THE CHAIN UP TO IT. -/
theorem getElem?_row (key : Bytes) (timestamp scope seed : String) (chunks : List Bytes) (k : Nat) :
    (Framing.row key timestamp scope seed chunks)[k]?
      = chunks[k]?.map (Framing.wire (chained key timestamp scope seed (chunks.take (k + 1)))) := by
  induction chunks generalizing seed k with
  | nil => rfl
  | cons chunk chunks ih =>
    rw [Framing.row]
    cases k with
    | zero => rfl
    | succ k =>
      rw [List.getElem?_cons_succ, List.getElem?_cons_succ, ih]
      rfl

theorem size_row (key : Bytes) (timestamp scope seed : String) (chunks : List Bytes) :
    (Framing.row key timestamp scope seed chunks).length = chunks.length := by
  induction chunks generalizing seed with
  | nil => rfl
  | cons chunk chunks ih => rw [Framing.row, List.length_cons, List.length_cons, ih]

/-- The frames among the answers are those of the chunks that are taken. -/
theorem framesIn_callEach {s : ChunkSigner} (hs : s.state ≠ .terminal) (chunks : List Bytes) :
    framesIn (callEach chunks s).1 = Framing.row s.key s.timestamp s.scope s.previous (taken chunks) := by
  have hframes (frames : List Bytes) :
      (frames.map Except.ok).filterMap (Except.toOption (ε := Fault)) = frames := by
    simp [Except.toOption, Function.comp_def]
  have hrefused (n : Nat) : (List.replicate n (Except.error Fault.chunkAfterTerminal)).filterMap
      (Except.toOption (α := Bytes)) = [] := by
    simp [Except.toOption]
  rw [callEach_eq hs, framesIn, List.filterMap_append, hframes, hrefused, List.append_nil]

/-- A receiver finds in a signed frame THE SIGNATURE AND THE CHUNK that it was made of, and nothing else. -/
theorem decode_signed (key : Bytes) (text : String) (chunk : Bytes) :
    Receiving.decode (Framing.wire (Hmac.hexDigest key (Utf8.ofString text)) chunk)
      = some (⟨Hmac.hexDigest key (Utf8.ofString text), chunk⟩, []) := by
  have hdigits : ∀ c ∈ (Hmac.hexDigest key (Utf8.ofString text)).toList, Hex.IsDigit c := by
    intro c hc
    rw [Hmac.hexDigest, String.toList_ofList] at hc
    exact Hex.isDigit_of_mem_ofBytes hc
  have hdecode := Receiving.decode_wire (Hmac.length_hexDigest key _) hdigits chunk []
  rwa [List.append_nil] at hdecode

theorem taken_isPrefix (chunks : List Bytes) : taken chunks <+: chunks := by
  induction chunks with
  | nil => exact List.prefix_rfl
  | cons chunk chunks ih =>
    rw [taken]
    split
    · exact ⟨chunks, rfl⟩
    · exact (List.prefix_cons_inj chunk).mpr ih

/-- A chunk is taken IF AND ONLY IF no chunk before it is empty. -/
theorem lt_length_taken_iff {chunks : List Bytes} {i : Nat} (hi : i < chunks.length) :
    i < (taken chunks).length ↔ [] ∉ chunks.take i := by
  induction chunks generalizing i with
  | nil => exact absurd hi (Nat.not_lt_zero i)
  | cons chunk chunks ih =>
    rw [taken]
    cases i with
    | zero =>
      refine iff_of_true ?_ List.not_mem_nil
      split
      · exact Nat.one_pos
      · exact Nat.succ_pos _
    | succ i =>
      by_cases hchunk : chunk = []
      · rw [if_pos hchunk, hchunk]
        simp
      · rw [if_neg hchunk, List.length_cons, Nat.succ_lt_succ_iff, ih (Nat.lt_of_succ_lt_succ hi),
          List.take_succ_cons, List.mem_cons, not_or]
        exact ⟨fun h => ⟨Ne.symm hchunk, h⟩, fun h => h.2⟩

/-! ## The chain -/

/-- **Calls that are linked:** what was answered for some chunks, from a seed on, and the signer behind them. -/
structure Linked (key : Bytes) (scope timestamp seed : String) (chunks : List Bytes)
    (answers : List (Except Fault Bytes)) (s : ChunkSigner) : Prop where
  /-- A call is refused if and only if a chunk before it is empty. -/
  answered : ∀ i, i < chunks.length → ∃ answer, answers[i]? = some answer
    ∧ if [] ∈ chunks.take i then answer = .error .chunkAfterTerminal else ∃ frame, answer = .ok frame
  /-- Behind an empty chunk every call is refused, and nothing changes. -/
  refuses : [] ∈ chunks → ∀ chunk, s.call chunk = ⟨.error .chunkAfterTerminal, s, []⟩
  ready : s.state = .ready ↔ chunks = []
  signing : s.state = .signing ↔ chunks ≠ [] ∧ [] ∉ chunks
  terminal : s.state = .terminal ↔ [] ∈ chunks
  /-- The signer has the signature of the last frame, and the seed if there is none. -/
  previous : match (framesIn answers).getLast? with
    | some frame => ∃ chunk, Receiving.decode frame = some (⟨s.previous, chunk⟩, [])
    | none => s.previous = seed
  count : s.count = (framesIn answers).length
  /-- A frame holds its chunk, and the signature of the chain up to it. -/
  frames : ∀ k frame, (framesIn answers)[k]? = some frame → ∃ chunk, chunks[k]? = some chunk
    ∧ Receiving.decode frame
      = some (⟨chained key timestamp scope seed (chunks.take (k + 1)), chunk⟩, [])

/-- A frame of a row is received as its chunk, with the chain up to it. -/
theorem decode_of_getElem?_row {key : Bytes} {timestamp scope seed : String} {chunks : List Bytes} {k : Nat}
    {frame : Bytes} (h : (Framing.row key timestamp scope seed chunks)[k]? = some frame) :
    ∃ chunk, chunks[k]? = some chunk
      ∧ Receiving.decode frame
        = some (⟨chained key timestamp scope seed (chunks.take (k + 1)), chunk⟩, []) := by
  rw [getElem?_row] at h
  obtain ⟨chunk, hchunk, rfl⟩ := Option.map_eq_some_iff.mp h
  refine ⟨chunk, hchunk, ?_⟩
  -- the chain up to a chunk ends with the signature of that chunk
  have htake : chunks.take (k + 1) = chunks.take k ++ [chunk] := by
    rw [List.take_add_one, hchunk]
    rfl
  rw [htake, chained_concat]
  exact decode_signed key _ chunk

/-- Each call of a row is answered WITHOUT A LOOK AHEAD: only an empty chunk before it matters. -/
theorem getElem?_callEach {s : ChunkSigner} (hs : s.state ≠ .terminal) {chunks : List Bytes} {i : Nat}
    (hi : i < chunks.length) :
    ∃ answer, (callEach chunks s).1[i]? = some answer
      ∧ if [] ∈ chunks.take i then answer = .error .chunkAfterTerminal
        else ∃ frame, answer = .ok frame := by
  have htaken := lt_length_taken_iff hi
  rw [callEach_eq hs]
  by_cases hmem : [] ∈ chunks.take i
  · refine ⟨.error .chunkAfterTerminal, ?_, if_pos hmem ▸ rfl⟩
    have hle : (taken chunks).length ≤ i := Nat.le_of_not_lt fun hlt => htaken.mp hlt hmem
    rw [List.getElem?_append_right (by rw [List.length_map, size_row]; exact hle), List.length_map,
      size_row, List.getElem?_replicate, if_pos (by omega)]
  · have hlt : i < (Framing.row s.key s.timestamp s.scope s.previous (taken chunks)).length := by
      rw [size_row]
      exact htaken.mpr hmem
    refine ⟨.ok (Framing.row s.key s.timestamp s.scope s.previous (taken chunks))[i], ?_, ?_⟩
    · rw [List.getElem?_append_left (by rw [List.length_map]; exact hlt), List.getElem?_map,
        List.getElem?_eq_getElem hlt]
      rfl
    · rw [if_neg hmem]
      exact ⟨_, rfl⟩

/-- The state behind a row of calls tells WHICH CHUNKS THERE WERE: none, only such with bytes, or an empty
one. -/
theorem state_callEach {s : ChunkSigner} (hs : s.state = .ready) (chunks : List Bytes) :
    let last := (callEach chunks s).2
    (last.state = .ready ↔ chunks = []) ∧ (last.state = .signing ↔ chunks ≠ [] ∧ [] ∉ chunks)
      ∧ (last.state = .terminal ↔ [] ∈ chunks) := by
  intro last
  have hgoes : s.state ≠ .terminal := by
    rw [hs]
    decide
  have hstate : last.state
      = if [] ∈ chunks then .terminal else if chunks = [] then .ready else .signing := by
    show (callEach chunks s).2.state = _
    rw [callEach_eq hgoes, ← hs]
    exact state_foldl_taken hgoes chunks
  by_cases hempty : [] ∈ chunks
  · rw [if_pos hempty] at hstate
    simp [hstate, hempty, List.ne_nil_of_mem hempty]
  · rw [if_neg hempty] at hstate
    by_cases hnone : chunks = []
    · rw [if_pos hnone] at hstate
      simp [hstate, hnone]
    · rw [if_neg hnone] at hstate
      simp [hstate, hempty, hnone]

/-- **THE CHAIN OF A SIGNER.**  Whatever chunks a new signer is given, in whatever number: the calls up to the
first empty chunk succeed and all others are refused and change nothing; the state tells which of them there
were; the signature that the signer keeps is that of the last frame; and the signature in every frame is the
fold of the codes over the chunks up to it, from the seed on. -/
theorem callEach_linked (key : Bytes) (scope timestamp seed : String) (chunks : List Bytes) :
    let fresh : ChunkSigner := { key, scope, timestamp, previous := seed }
    Linked key scope timestamp seed chunks (callEach chunks fresh).1 (callEach chunks fresh).2 := by
  intro fresh
  have hfresh : fresh.state ≠ .terminal := by
    show ChunkState.ready ≠ .terminal
    decide
  have hframes := framesIn_callEach hfresh chunks
  have hlast : (callEach chunks fresh).2 = (taken chunks).foldl advance fresh := by
    rw [callEach_eq hfresh]
  obtain ⟨hready, hsigning, hterminal⟩ := state_callEach (s := fresh) rfl chunks
  constructor
  case answered => exact fun i hi => getElem?_callEach hfresh hi
  case refuses =>
    intro hempty chunk
    rcases call_cases (callEach chunks fresh).2 chunk with ⟨hne, -, -⟩ | ⟨-, hcall⟩
    · exact absurd (hterminal.mpr hempty) hne
    · exact hcall
  case ready => exact hready
  case signing => exact hsigning
  case terminal => exact hterminal
  case previous =>
    rw [hframes, hlast, previous_foldl]
    split
    · rename_i frame hframe
      rw [List.getLast?_eq_getElem?, size_row] at hframe
      obtain ⟨chunk, -, hdecode⟩ := decode_of_getElem?_row hframe
      rw [List.take_of_length_le (by omega)] at hdecode
      exact ⟨chunk, hdecode⟩
    · rename_i hnone
      have hempty : (taken chunks).length = 0 := by
        rw [← size_row, List.getLast?_eq_none_iff.mp hnone, List.length_nil]
      rw [List.length_eq_zero_iff.mp hempty]
      rfl
  case count =>
    rw [hframes, hlast, count_foldl, size_row]
    exact Nat.zero_add _
  case frames =>
    intro k frame hframe
    rw [hframes] at hframe
    obtain ⟨chunk, hchunk, hdecode⟩ := decode_of_getElem?_row hframe
    obtain ⟨more, hmore⟩ := taken_isPrefix chunks
    have hk : k < (taken chunks).length := (List.getElem?_eq_some_iff.mp hchunk).1
    refine ⟨chunk, ?_, ?_⟩
    · rw [← hmore, List.getElem?_append_left hk]
      exact hchunk
    · have htake : (taken chunks ++ more).take (k + 1) = (taken chunks).take (k + 1) :=
        List.take_append_of_le_length hk
      rw [hdecode, ← htake, hmore]

end ChunkSigner

end SigV4
