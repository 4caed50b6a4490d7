/-
  THE EXACT LENGTH of a payload in signed chunks: what is announced is what is produced.

  1. **Signing** — `ChunkSigner.signAll` signs chunks one after the other.  As long as none of them is
     empty but the last, every one is signed, and their frames are the row of them (`signAll_concat`).
  2. **The length** — `totalLength_exact`: the closed form is the length of the frames, whether a signer is
     given the chunks or a framed payload is read, and it grows with the length that is declared.

  Nothing is assumed of the sizes: slices may be full, short, or missing, and take any number of digits.
  However a payload was cut, it was cut in the one way there is (`IsCut.eq_slices`).
-/
import SigV4.Proofs.Payload.Delivery
import SigV4.Proofs.Payload.WireLength

namespace SigV4

/-! ## Signing -/

namespace ChunkSigner

/-- **The frames of chunks that are signed one after the other.** -/
def signAll (s : ChunkSigner) : List Bytes → Except Fault (List Bytes)
  | [] => .ok []
  | chunk :: chunks => do
    let signed ← s.sign chunk
    let frames ← signed.signer.signAll chunks
    return signed.frame :: frames

/-- One more chunk in front. -/
theorem signAll_cons {s : ChunkSigner} (hs : s.state ≠ .terminal) (chunk : Bytes) (chunks : List Bytes) :
    s.signAll (chunk :: chunks)
      = ((s.advance chunk).signAll chunks).map (frame (s.signatureOf chunk) chunk :: ·) := by
  rw [signAll, sign, if_neg hs]
  show ((s.advance chunk).signAll chunks).bind _ = _
  cases (s.advance chunk).signAll chunks with
  | error e => rfl
  | ok frames => rfl

/-- **A row of chunks is signed to its end,** if the empty one comes last. -/
theorem signAll_concat {s : ChunkSigner} (hs : s.state ≠ .terminal) {chunks : List Bytes}
    (h : ∀ chunk ∈ chunks, chunk ≠ []) :
    s.signAll (chunks ++ [[]])
      = .ok (Framing.row s.key s.timestamp s.scope s.previous (chunks ++ [[]])) := by
  induction chunks generalizing s with
  | nil =>
    rw [List.nil_append, signAll_cons hs]
    rfl
  | cons chunk chunks ih =>
    have hne : chunk ≠ [] := h chunk List.mem_cons_self
    have hnext : (s.advance chunk).state ≠ .terminal := by
      simp [advance, hne]
    rw [List.cons_append, signAll_cons hs, ih hnext fun c hc => h c (List.mem_cons_of_mem chunk hc),
      Framing.row_cons]
    rfl

end ChunkSigner

/-! ## The length -/

namespace Frame

/-- The announced length of a declared one, by the row of its slices. -/
theorem totalLength_eq {declared chunkSize : Int} (hdeclared : 0 ≤ declared) (hsize : 1 ≤ chunkSize) :
    totalLength declared chunkSize
      = .ok ((Framing.rowLength chunkSize.toNat declared.toNat + Framing.frameLength 0 : Nat) : Int) := by
  have h0 : 0 < chunkSize.toNat := by omega
  have h := Framing.totalLength_natCast h0 declared.toNat
  rwa [Int.toNat_of_nonneg hdeclared, Int.toNat_of_nonneg (by omega)] at h

/-- **The announced length is exact.**  For every declared length and every size of chunks, it is the number
of bytes of the frames of any payload of that length, cut into chunks of that size with an empty one behind
them, by any signer that has not come to its end; and of what any body of that length delivers, framed with
it, if it does not fail.  A longer payload has a longer one. -/
theorem totalLength_exact {declared chunkSize : Int} (hdeclared : 0 ≤ declared)
    (hsize : 1 ≤ chunkSize) :
    ∃ total : Nat, totalLength declared chunkSize = .ok (total : Int)
      ∧ (∀ (signer : ChunkSigner) (payload : Bytes) (parts : List Bytes), signer.state ≠ .terminal →
          (payload.length : Int) = declared → Framing.IsCut chunkSize.toNat payload parts →
          ∃ frames, signer.signAll (parts ++ [[]]) = .ok frames ∧ frames.flatten.length = total)
      ∧ (∀ (signer : ChunkSigner) (body : Body), signer.state ≠ .terminal →
          (body.rest.length : Int) = declared → body.Honest → body.Unfailing chunkSize.toNat →
          ∃ (depth : Nat) (p : Framed (Layer depth)) (frames : List Bytes),
            body.frame signer chunkSize declared = .ok (.framed depth p) ∧ p.contentLength = total
              ∧ (Body.framed depth p).Delivers frames ∧ frames.flatten.length = total)
      ∧ ∀ longer, declared < longer →
          ∃ more : Nat, totalLength longer chunkSize = .ok (more : Int) ∧ total < more := by
  have h0 : 0 < chunkSize.toNat := by omega
  have htotal := totalLength_eq hdeclared hsize
  refine ⟨_, htotal, ?_, ?_, ?_⟩
  · intro signer payload parts hsigner hlength hcut
    obtain rfl := hcut.eq_slices h0
    have hne : ∀ part ∈ Framing.slices chunkSize.toNat payload, part ≠ [] :=
      fun part hpart => (hcut.bounded part hpart).1
    refine ⟨_, ChunkSigner.signAll_concat hsigner hne, ?_⟩
    rw [← hlength, Int.toNat_natCast]
    exact Framing.length_ofPayload h0 signer payload
  · rintro signer body hsigner rfl hhonest hunfailing
    obtain ⟨depth, feed, total, hstart, hframe, hfeed, hrest, hsteady⟩ :=
      Body.frame_started hunfailing.readable hhonest signer (by omega : chunkSize ≠ 0) body.rest.length
    have hbegun := Framed.begun_of_feed hfeed hrest hsigner hsize total
    refine ⟨depth, _, _, hframe, ?_, Body.delivers_begun hbegun (Or.inr (hsteady _ hunfailing)), ?_⟩
    · exact Except.ok.inj (hstart.symm.trans htotal)
    · rw [Int.toNat_natCast]
      exact Framing.length_ofPayload h0 signer body.rest
  · intro longer hlonger
    refine ⟨_, totalLength_eq (by omega) hsize, ?_⟩
    have hgrows := Framing.rowLength_lt h0 (by omega : declared.toNat < longer.toNat)
    omega

/-- Seventeen bytes in chunks of sixteen: the length of the full chunk takes two digits, that of the other
one. -/
theorem totalLength_exact_two_digits :
    let signer : ChunkSigner := ⟨[1, 2], "20150830/us-east-1/s3/aws4_request", "20150830T123600Z",
      "seed", .ready, 0⟩
    let payload : Bytes := List.replicate 17 97
    (0 ≤ (17 : Int) ∧ 1 ≤ (16 : Int))
      ∧ ∃ total : Nat, totalLength 17 16 = .ok (total : Int)
        ∧ (∃ frames, signer.signAll ([payload.take 16, payload.drop 16] ++ [[]]) = .ok frames
          ∧ frames.flatten.length = total)
        ∧ ∃ more : Nat, totalLength 18 16 = .ok (more : Int) ∧ total < more := by
  intro signer payload
  refine ⟨⟨by decide, by decide⟩, ?_⟩
  obtain ⟨total, htotal, hframes, -, hgrows⟩ :=
    totalLength_exact (by decide : (0 : Int) ≤ 17) (by decide : (1 : Int) ≤ 16)
  have hcut : Framing.IsCut (16 : Int).toNat payload [payload.take 16, payload.drop 16] :=
    ⟨by decide, by decide, by decide⟩
  exact ⟨total, htotal, hframes signer payload _ (by decide) (by decide) hcut, hgrows 18 (by decide)⟩

end Frame

end SigV4
