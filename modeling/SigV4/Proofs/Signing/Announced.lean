/-
  THE LENGTH THAT IS ANNOUNCED for a body in chunks.

  1. **Bodies that can be measured** — `Measurable`: without a declared length they are counted, or the
     way from their position to their end is.  `Placed`: they do not stand BEHIND their end.
  2. **Measuring** — `measured_value`: for a body in its place, what is found is what is left of it; behind
     the end it is LESS THAN ZERO.
  3. **Framing** — a body delivers as many bytes as are announced (`frame_total`), or, announced as less
     than none, no bytes at all (`frame_negative`).
  4. **Signing** — `sign_announces` joins these; `sign_announces_less_than_none` is a buffer behind its
     end.
-/
import SigV4.Proofs.Payload.Exposure
import SigV4.Proofs.Signing.Chunked

namespace SigV4

namespace Body

/-! ## Bodies that can be measured -/

/-- A body whose length can be found without reading it. -/
def Measurable : Body → Prop
  | absent => True
  | bytes _ => True
  | byteArray _ => True
  | parts _ => True
  | buffer _ => True
  | stream s => s.access = .sync ∧ s.seeking = some .sync
  | _ => False

/-- The position at which a body is read, if it has one. -/
def position? : Body → Option Nat
  | buffer b => some b.pos
  | stream s => some s.pos
  | _ => none

/-- A body that does not stand behind its end. -/
def Placed : Body → Prop
  | buffer b => b.pos ≤ b.data.length
  | stream s => s.pos ≤ s.data.length
  | _ => True

end Body

/-! ## Measuring -/

namespace DecodedLength

/-- Where no length is declared, a body that can be measured is measured. -/
theorem find_measurable {fields : Fields} (hlength : fields.get? "Content-Length" = none)
    {body : Body} (hbody : body.Measurable) : find fields body = measured body := by
  have hsync : body.isAsync = false := by
    cases body with
    | stream s => simp [Body.isAsync, hbody.1]
    | pieces p => exact hbody.elim
    | series s => exact hbody.elim
    | reader origin r => exact hbody.elim
    | seriesReader r => exact hbody.elim
    | _ => rfl
  rw [find, if_neg (by simp [hsync]), hlength]

/-- What is behind a position is what is left, or LESS THAN NOTHING where that is behind the end. -/
theorem length_sub_pos (data : Bytes) (pos : Nat) :
    (0 ≤ (data.length : Int) - pos ↔ pos ≤ data.length)
      ∧ (pos ≤ data.length → (data.length : Int) - pos = (data.drop pos).length) := by
  rw [List.length_drop]
  omega

/-- **What measuring finds.** -/
theorem measured_value {body : Body} (h : body.Measurable) :
    ∃ decoded, (measured body).result = .ok decoded ∧ (0 ≤ decoded ↔ body.Placed)
      ∧ (body.Placed → decoded = body.rest.length) := by
  cases body with
  | absent => exact ⟨_, rfl, iff_of_true (Int.le_refl 0) trivial, fun _ => rfl⟩
  | bytes data => exact ⟨_, rfl, iff_of_true (Int.natCast_nonneg _) trivial, fun _ => rfl⟩
  | byteArray data => exact ⟨_, rfl, iff_of_true (Int.natCast_nonneg _) trivial, fun _ => rfl⟩
  | parts items => exact ⟨_, rfl, iff_of_true (Int.natCast_nonneg _) trivial, fun _ => rfl⟩
  | buffer b => exact ⟨_, rfl, length_sub_pos b.data b.pos⟩
  | stream s =>
    have hm : (measured (.stream s)).result = .ok ((s.data.length : Int) - s.pos) := by
      unfold measured
      dsimp only
      rw [h.2]
    exact ⟨_, hm, length_sub_pos s.data s.pos⟩
  | _ => exact h.elim

/-- A stream that was measured is put back. -/
theorem position_measured (body : Body) : (measured body).next.position? = body.position? := by
  cases body with
  | stream s =>
    unfold measured
    dsimp only
    split <;> rfl
  | _ => rfl

end DecodedLength

/-! ## Framing -/

namespace Body

/-- A body that is framed with its own length delivers AS MANY BYTES AS ARE ANNOUNCED. -/
theorem frame_total {body : Body} {chunkSize : Int} (hsize : 1 ≤ chunkSize) (hh : body.Honest)
    (hu : body.Unfailing chunkSize.toNat) {signer : ChunkSigner}
    (hsigner : signer.state ≠ .terminal) {total : Int}
    (htotal : Frame.totalLength body.rest.length chunkSize = .ok total) :
    ∃ out, body.frame signer chunkSize body.rest.length = .ok out
      ∧ out.Delivers (Framing.ofPayload signer chunkSize.toNat body.rest)
      ∧ ((Framing.ofPayload signer chunkSize.toNat body.rest).flatten.length : Int) = total := by
  obtain ⟨depth, p, hframe, hbegun, hsteady⟩ := frame_begun hu.readable hh hsigner hsize
  obtain ⟨size, rfl⟩ := Int.eq_ofNat_of_zero_le (a := chunkSize) (by omega)
  have h0 : 0 < size := by omega
  rw [Framing.totalLength_natCast h0] at htotal
  refine ⟨framed depth p, hframe, delivers_begun hbegun (hsteady hu), ?_⟩
  rw [Int.toNat_natCast, Framing.length_ofPayload h0]
  exact Except.ok.inj htotal

end Body

/-! ## Signing -/

/-- **The length that is announced is the body's own, IF THE BODY IS IN ITS PLACE.**  It then is what is
left of the body, and the body that is sent delivers as many bytes as its length on the wire says.  A body
that stands behind its end is announced with less than none, and then delivers nothing. -/
theorem Signer.sign_announces {s : Signer} {now : Instant} {ps : Properties} {identity : Identity}
    {standing : Standing} {context : Context} {request signed : Request}
    (hidentity : identity.standing now = .ok (some standing))
    (hcontext : Context.resolve s.config ps now = .ok context)
    (hchunks : context.usesChunks = true)
    (hlength : request.fields.get? "Content-Length" = none) (hbody : request.body.Measurable)
    (hsign : (s.sign now ps identity request).result = .ok (.signed signed)) :
    ∃ decoded total : Int,
      signed.fields.get? "X-Amz-Decoded-Content-Length"
          = some ⟨"X-Amz-Decoded-Content-Length", [toString decoded]⟩
        ∧ signed.fields.get? "Content-Length" = some ⟨"Content-Length", [toString total]⟩
        ∧ (s.sign now ps identity request).next.position? = request.body.position?
        ∧ (0 ≤ decoded ↔ request.body.Placed)
        ∧ (request.body.Placed → decoded = request.body.rest.length)
        ∧ (request.body.Honest → request.body.Unfailing context.chunkSize.toNat →
          (request.body.Placed →
            ∃ items, signed.body.Delivers items ∧ (items.flatten.length : Int) = total)
          ∧ (¬request.body.Placed →
            ∃ e, e.BlamesLength decoded ∧ (∃ o, signed.body.items? = some o ∧ o.result = .error e)
              ∧ ∀ size, size ≠ some 0 →
                ∃ o, signed.body.read? size = some o ∧ o.result = .error e)) := by
  obtain ⟨decoded, total, names, sig, hchunked, hfound, hnext, halike, hframed⟩ :=
    sign_chunked hidentity hcontext hchunks hsign
  have hsize := Context.resolve_chunkSize hcontext
  have htotal := hchunked.announced
  -- what was found is what measuring finds
  rw [DecodedLength.find_measurable hlength hbody] at hfound hnext
  obtain ⟨measured, hmeasured, hpositive, hplaced⟩ := DecodedLength.measured_value hbody
  obtain rfl : measured = decoded := Except.ok.inj (hmeasured.symm.trans hfound)
  refine ⟨measured, total, hchunked.get?_decodedLength, hchunked.get?_length, ?_, hpositive, hplaced,
    fun hh hu => ⟨fun hp => ?_, fun hp => ?_⟩⟩
  · rw [hnext]
    exact DecodedLength.position_measured request.body
  · rw [hplaced hp, ← halike.rest] at hframed htotal
    obtain ⟨out, hout, hdelivers, hlong⟩ :=
      Body.frame_total hsize (halike.honest hh) (halike.unfailing _ hu)
        (Signing.chunkSigner_state context _ _) htotal
    rw [hframed] at hout
    rw [Except.ok.inj hout]
    exact ⟨_, hdelivers, hlong⟩
  · have hnegative : measured < 0 := Int.not_le.mp fun h => hp (hpositive.mp h)
    obtain ⟨out, e, hout, hblame, hitems, hread⟩ :=
      Body.frame_negative hsize (halike.honest hh) (halike.unfailing _ hu)
        (Signing.chunkSigner_state context _ _) hnegative
    rw [hframed] at hout
    rw [Except.ok.inj hout]
    exact ⟨e, hblame, hitems, hread⟩

/-- A stream of which one byte was read, in chunks of eight bytes. -/
theorem Signer.sign_announces_halting_stream :
    let s : Signer := ⟨.sync, { Configuration.service with
      chunkedEncoding := .flag true, chunkSize := .whole 8 }⟩
    let ps : Properties := ⟨[("region", .text "us-east-1"), ("service", .text "s3"),
      ("date", .text "20130524T000000Z")]⟩
    let credentials : Credentials := ⟨"AKIDEXAMPLE", "wJalrXUtnFEMI", none⟩
    let now : Instant := ⟨⟨2013, 5, 24⟩, 0, 0, 0, 0, some 0⟩
    let context : Context := ⟨⟨"20130524", "us-east-1", "s3", "aws4_request", true, true⟩,
      "20130524T000000Z", .header, true, true, 8, false, true, true, 3600⟩
    let request : Request := ⟨⟨"https", "example.com", none, none, none, none⟩, "PUT", .empty,
      .stream ⟨.sync, some .sync, none, [10, 20, 30, 40, 50], 1, fun _ => some 2, fun _ => false,
        [], []⟩⟩
    ∃ signed, ((Identity.keys credentials none).standing now
          = .ok (some ⟨credentials, none, .flag false, .flag false⟩)
        ∧ Context.resolve s.config ps now = .ok context ∧ context.usesChunks = true
        ∧ request.fields.get? "Content-Length" = none ∧ request.body.Measurable
        ∧ (s.sign now ps (.keys credentials none) request).result = .ok (.signed signed))
      ∧ ∃ decoded total : Int, ∃ items,
        signed.fields.get? "X-Amz-Decoded-Content-Length"
            = some ⟨"X-Amz-Decoded-Content-Length", [toString decoded]⟩
          ∧ signed.fields.get? "Content-Length" = some ⟨"Content-Length", [toString total]⟩
          ∧ decoded = 4 ∧ signed.body.Delivers items ∧ (items.flatten.length : Int) = total := by
  intro s ps credentials now context request
  have hcontext : Context.resolve s.config ps now = .ok context := rfl
  have hmeasurable : request.body.Measurable := ⟨rfl, rfl⟩
  have hh : request.body.Honest := fun _ => nofun
  have hu : request.body.Unfailing context.chunkSize.toNat := ⟨rfl, fun _ => rfl⟩
  have hplaced : request.body.Placed := by
    show 1 ≤ 5
    decide
  obtain ⟨signed, hsign⟩ : ∃ signed,
      (s.sign now ps (.keys credentials none) request).result = .ok (.signed signed) := by
    rw [sign_of_standing rfl rfl rfl rfl hcontext]
    have htotal : Frame.totalLength 4 8 = .ok 176 :=
      Framing.totalLength_of_lt (by decide) (by decide) (by decide)
    refine Signing.signIn_chunked rfl rfl rfl credentials rfl htotal
      (Signing.isSome_showInt? (by decide)) fun signer => ?_
    exact ⟨_, Body.frame_of_feed rfl rfl⟩
  refine ⟨signed, ⟨rfl, hcontext, rfl, rfl, hmeasurable, hsign⟩, ?_⟩
  obtain ⟨decoded, total, hdecoded, htotal, -, -, hfound, hdelivers⟩ :=
    sign_announces rfl hcontext rfl rfl hmeasurable hsign
  obtain ⟨items, hitems, hlong⟩ := (hdelivers hh hu).1 hplaced
  exact ⟨decoded, total, items, hdecoded, htotal, hfound hplaced, hitems, hlong⟩

/-- A buffer of five bytes that stands at the tenth: minus five bytes are announced, and not one is
delivered. -/
theorem Signer.sign_announces_less_than_none :
    let s : Signer := ⟨.sync, { Configuration.service with
      chunkedEncoding := .flag true, chunkSize := .whole 8 }⟩
    let ps : Properties := ⟨[("region", .text "us-east-1"), ("service", .text "s3"),
      ("date", .text "20130524T000000Z")]⟩
    let credentials : Credentials := ⟨"AKIDEXAMPLE", "wJalrXUtnFEMI", none⟩
    let now : Instant := ⟨⟨2013, 5, 24⟩, 0, 0, 0, 0, some 0⟩
    let request : Request := ⟨⟨"https", "example.com", none, none, none, none⟩, "PUT", .empty,
      .buffer ⟨.caller, [104, 101, 108, 108, 111], 10, false⟩⟩
    ∃ signed, (s.sign now ps (.keys credentials none) request).result = .ok (.signed signed)
      ∧ signed.fields.get? "X-Amz-Decoded-Content-Length"
        = some ⟨"X-Amz-Decoded-Content-Length", ["-5"]⟩
      ∧ Text.readInt "-5" = some (-5) ∧ request.body.rest = []
      ∧ ∃ o e, signed.body.items? = some o ∧ o.result = .error e ∧ e.BlamesLength (-5) := by
  intro s ps credentials now request
  let context : Context := ⟨⟨"20130524", "us-east-1", "s3", "aws4_request", true, true⟩,
    "20130524T000000Z", .header, true, true, 8, false, true, true, 3600⟩
  have hcontext : Context.resolve s.config ps now = .ok context := rfl
  have hfound : (Signing.lengthFor context request).result = .ok (some (-5)) := rfl
  have htotal : Frame.totalLength (-5) 8 = .ok 81 := by
    have hfew (n : Nat) (hn : n < 16) : Frame.length (n : Int) = (86 + n : Nat) := by
      rw [Framing.length_natCast, Framing.frameLength_of_lt hn]
    have hdiv : Int.fdiv (-5) 8 = -1 := by decide
    have hmod : Int.fmod (-5) 8 = 3 := by decide
    rw [Frame.totalLength, if_neg (by decide)]
    simp only [hdiv, hmod]
    exact congrArg Except.ok (congrArg₂ (· + ·)
      (congrArg₂ (· + ·) (congrArg (-1 * ·) (hfew 8 (by decide))) (hfew 3 (by decide)))
      (hfew 0 (by decide)))
  obtain ⟨signed, hin⟩ : ∃ signed,
      (Signing.signIn .sync context credentials request).result = .ok (.signed signed) := by
    refine Signing.signIn_chunked rfl rfl rfl credentials hfound htotal
      (Signing.isSome_showInt? (by decide)) fun signer => ?_
    exact ⟨_, Body.frame_of_feed rfl rfl⟩
  obtain ⟨_, prepared, hash, hsteps⟩ := Signing.signIn_ok hin
  obtain ⟨decoded, total, hchunked⟩ := hsteps.chunked rfl rfl
  obtain rfl : -5 = decoded := Option.some.inj (Except.ok.inj (hfound.symm.trans hchunked.measured))
  have hfield : signed.fields.get? "X-Amz-Decoded-Content-Length"
      = some ⟨"X-Amz-Decoded-Content-Length", ["-5"]⟩ := hchunked.get?_decodedLength
  refine ⟨signed, ?_, hfield, rfl, rfl, ?_⟩
  · rw [sign_of_standing rfl rfl rfl rfl hcontext]
    exact hin
  · have hh : request.body.Honest := trivial
    have hu : request.body.Unfailing 8 := ⟨rfl, rfl⟩
    obtain ⟨out, e, hout, hblame, ⟨o, ho, herr⟩, -⟩ :=
      Body.frame_negative (by decide : 1 ≤ (8 : Int)) hh hu
        (Signing.chunkSigner_state context _ _) (by decide : (-5 : Int) < 0)
    rw [← Except.ok.inj (hchunked.framed.symm.trans hout)] at ho
    exact ⟨o, e, ho, herr, hblame⟩

end SigV4
