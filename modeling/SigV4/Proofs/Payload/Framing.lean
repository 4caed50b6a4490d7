/-
  FRAMINGS: what a payload looks like in signed chunks, said WITHOUT READING IT.

  1. **Slices** — `slices` cuts a payload into pieces of one size.  `IsCut` says what that is: nothing
     is lost, every slice but the last is full, and none is empty.  There is no other way to cut it so
     (`IsCut.eq_slices`).
  2. **Frames** — `wire` is one chunk on the wire, `row` a row of chunks: each signature is taken over
     the one before it, the first over a seed.
  3. **The framing of a payload** (`ofPayload`) is the row of its slices and one empty chunk.

  `ofPayload_step` takes a framing apart at its first frame.  It is the only equation about framings
  that the proofs about reading them need.
-/
import SigV4.Payload.ChunkSigner

namespace SigV4.Framing

/-! ## Slices -/

/-- The payload in slices of one size, the last one shorter if it has to be. -/
def slices (size : Nat) (payload : Bytes) : List Bytes :=
  if 0 < size ∧ payload ≠ [] then payload.take size :: slices size (payload.drop size) else []
termination_by payload.length
decreasing_by
  rename_i h
  have := List.length_pos_iff.mpr h.2
  rw [List.length_drop]
  omega

/-- `parts` is `payload` cut at every `size` bytes. -/
structure IsCut (size : Nat) (payload : Bytes) (parts : List Bytes) : Prop where
  /-- Nothing is lost. -/
  flatten_eq : parts.flatten = payload
  /-- Only the last slice may be shorter. -/
  full : ∀ part ∈ parts.dropLast, part.length = size
  /-- No slice is empty or longer. -/
  bounded : ∀ part ∈ parts, part ≠ [] ∧ part.length ≤ size

theorem slices_nil (size : Nat) : slices size [] = [] := by
  rw [slices, if_neg (by simp)]

theorem slices_cons {size : Nat} (h0 : 0 < size) {payload : Bytes} (h : payload ≠ []) :
    slices size payload = payload.take size :: slices size (payload.drop size) := by
  rw [slices, if_pos ⟨h0, h⟩]

theorem take_ne_nil {size : Nat} (h0 : 0 < size) {payload : Bytes} (h : payload ≠ []) :
    payload.take size ≠ [] := by
  rw [Ne, List.take_eq_nil_iff]
  rintro (he | he)
  · omega
  · exact h he

/-- **The slices of a payload are a cut of it.** -/
theorem isCut_slices {size : Nat} (h0 : 0 < size) (payload : Bytes) :
    IsCut size payload (slices size payload) := by
  fun_induction slices size payload with
  | case1 payload h ih =>
    refine ⟨?_, ?_, ?_⟩
    · rw [List.flatten_cons, ih.flatten_eq, List.take_append_drop]
    · intro part hp
      by_cases hd : payload.drop size = []
      · rw [hd, slices_nil] at hp
        simp at hp
      · rw [slices_cons h0 hd, List.dropLast_cons_cons, ← slices_cons h0 hd] at hp
        rcases List.mem_cons.mp hp with hp | hp
        · -- a slice with bytes behind it is full
          have := List.length_pos_iff.mpr hd
          rw [List.length_drop] at this
          rw [hp, List.length_take]
          omega
        · exact ih.full part hp
    · intro part hp
      rcases List.mem_cons.mp hp with hp | hp
      · rw [hp]
        exact ⟨take_ne_nil h0 h.2, List.length_take_le _ _⟩
      · exact ih.bounded part hp
  | case2 payload h =>
    have hp : payload = [] := Decidable.of_not_not fun he => h ⟨h0, he⟩
    subst hp
    exact ⟨rfl, by simp, by simp⟩

/-- The first slices of a cut are a cut of what they hold. -/
theorem IsCut.of_append {size : Nat} {payload : Bytes} {parts more : List Bytes}
    (h : IsCut size payload (parts ++ more)) : IsCut size parts.flatten parts where
  flatten_eq := rfl
  full part hpart := by
    refine h.full part ?_
    rw [List.dropLast_append]
    split
    · exact hpart
    · exact List.mem_append_left _ ((List.dropLast_sublist parts).mem hpart)
  bounded part hpart := h.bounded part (List.mem_append_left more hpart)

/-- **A payload is cut in ONE way.** -/
theorem IsCut.eq_slices {size : Nat} (h0 : 0 < size) {payload : Bytes} {parts : List Bytes}
    (h : IsCut size payload parts) : parts = slices size payload := by
  induction parts generalizing payload with
  | nil =>
    rw [← h.flatten_eq]
    exact (slices_nil size).symm
  | cons part rest ih =>
    obtain ⟨hpart, hle⟩ := h.bounded part List.mem_cons_self
    have hpayload : part ++ rest.flatten = payload := h.flatten_eq
    have hne : payload ≠ [] := by
      rw [← hpayload]
      exact List.append_ne_nil_of_left_ne_nil hpart _
    rw [slices_cons h0 hne, ← hpayload]
    cases rest with
    | nil =>
      rw [List.flatten_nil, List.append_nil, List.take_of_length_le hle, List.drop_of_length_le hle,
        slices_nil]
    | cons next more =>
      -- a slice with another one behind it is full
      have hfull : part.length = size := h.full part List.mem_cons_self
      have hrest : IsCut size (next :: more).flatten (next :: more) :=
        ⟨rfl, fun p hp => h.full p (List.mem_cons_of_mem part hp),
          fun p hp => h.bounded p (List.mem_cons_of_mem part hp)⟩
      rw [List.take_left' hfull, List.drop_left' hfull, ← ih hrest]

/-! ## Frames -/

/-- The text that is signed for a chunk behind the signature `previous`. -/
def text (timestamp scope previous : String) (chunk : Bytes) : String :=
  "AWS4-HMAC-SHA256-PAYLOAD" ++ "\n" ++ timestamp ++ "\n" ++ scope ++ "\n" ++ previous ++ "\n"
    ++ Sha256.hexDigest [] ++ "\n" ++ Sha256.hexDigest chunk

/-- A chunk on the wire: its length in hexadecimal, its signature, and its bytes, in two lines. -/
def wire (sig : String) (chunk : Bytes) : Bytes :=
  ChunkSigner.asciiBytes (Hex.ofNat chunk.length ++ ";chunk-signature=".toList ++ sig.toList)
    ++ [13, 10] ++ chunk ++ [13, 10]

/-- **A row of chunks on the wire,** each signed behind the one before it and the first behind
`previous`. -/
def row (key : Bytes) (timestamp scope : String) : String → List Bytes → List Bytes
  | _, [] => []
  | previous, chunk :: chunks =>
    let sig := Hmac.hexDigest key (Utf8.ofString (text timestamp scope previous chunk))
    wire sig chunk :: row key timestamp scope sig chunks

/-- A signer writes the first frame of a row and goes on with the others. -/
theorem row_cons (s : ChunkSigner) (chunk : Bytes) (chunks : List Bytes) :
    row s.key s.timestamp s.scope s.previous (chunk :: chunks)
      = ChunkSigner.frame (s.signatureOf chunk) chunk
        :: row s.key s.timestamp s.scope (s.advance chunk).previous chunks :=
  rfl

/-- A row holds no empty frame. -/
theorem ne_nil_of_mem_row {key : Bytes} {timestamp scope previous : String} {chunks : List Bytes}
    {frame : Bytes} (h : frame ∈ row key timestamp scope previous chunks) : frame ≠ [] := by
  induction chunks generalizing previous with
  | nil => exact nomatch h
  | cons chunk chunks ih =>
    rcases List.mem_cons.mp h with h | h
    · rw [h, wire]
      simp
    · exact ih h

/-! ## The framing of a payload -/

/-- **The frames of a payload,** the empty chunk's the last. -/
def ofPayload (s : ChunkSigner) (size : Nat) (payload : Bytes) : List Bytes :=
  row s.key s.timestamp s.scope s.previous (slices size payload ++ [[]])

/-- THE FIRST FRAME holds the first slice; behind an empty one nothing follows. -/
theorem ofPayload_step (s : ChunkSigner) {size : Nat} (h0 : 0 < size) (payload : Bytes) :
    ofPayload s size payload
      = ChunkSigner.frame (s.signatureOf (payload.take size)) (payload.take size)
        :: if payload = [] then []
           else ofPayload (s.advance (payload.take size)) size (payload.drop size) := by
  by_cases h : payload = []
  · subst h
    rw [if_pos rfl, ofPayload, slices_nil, List.take_nil]
    rfl
  · rw [if_neg h, ofPayload, slices_cons h0 h, List.cons_append, row_cons]
    rfl

end SigV4.Framing
