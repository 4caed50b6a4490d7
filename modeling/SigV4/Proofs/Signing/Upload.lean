/-
  UPLOADS: a request that is signed and sent in chunks verifies FROM END TO END.

  1. **What the receiver takes** — the signature in the request as the seed, the scope that is named with
     it, the timestamp, and the key of that scope.
  2. **What it finds** — walking over the body from the seed, it accepts every frame, comes to the empty
     chunk exactly at the end, and has the payload, whose length was announced.
  3. **The limit** — a body in memory is signed in chunks of any size, but those whose size it cannot count
     are never delivered (`upload_uncountable`).

  The crux is that the chunks are signed behind the VERY signature that is written into the request, under
  the very key, scope and timestamp (`Signing.Chunked.framed`).
-/
import SigV4.Proofs.Payload.Receiving
import SigV4.Proofs.Signing.Announced

namespace SigV4

/-- What is framed of a payload is accepted, and is the payload. -/
theorem Receiving.walk_ofPayload (signer : ChunkSigner) {size : Nat} (h0 : 0 < size)
    (payload : Bytes) :
    walk signer.key signer.timestamp signer.scope signer.previous
        (Framing.ofPayload signer size payload).flatten
      = some (Framing.slices size payload, []) := by
  have hcut := Framing.isCut_slices h0 payload
  have h := walk_row signer.key signer.timestamp signer.scope signer.previous
    (fun part hp => (hcut.bounded part hp).1) []
  rwa [List.append_nil] at h

/-- **A CHUNKED UPLOAD VERIFIES.**  Whoever takes the signature, the scope and the timestamp from a request
that was signed in chunks, and has the key of that scope, accepts every frame of its body; and the chunks,
up to the empty one at the very end, are the payload, which is as long as was announced. -/
theorem Signer.upload_verifies {s : Signer} {now : Instant} {ps : Properties} {identity : Identity}
    {standing : Standing} {context : Context} {request signed : Request}
    (hidentity : identity.standing now = .ok (some standing))
    (hcontext : Context.resolve s.config ps now = .ok context)
    (hchunks : context.usesChunks = true) (hh : request.body.Honest)
    (hu : request.body.Unfailing context.chunkSize.toNat)
    (hlength : (DecodedLength.find request.fields request.body).result
      = .ok (request.body.rest.length : Int))
    (hsign : (s.sign now ps identity request).result = .ok (.signed signed)) :
    ∃ (scope : Scope) (timestamp seed : String) (names : List String) (key : Bytes)
      (items parts : List Bytes),
      signed.fields.get? "Authorization" = some ⟨"Authorization",
          ["AWS4-HMAC-SHA256" ++ " Credential="
            ++ (standing.credentials.accessKeyId ++ "/" ++ scope.text)
            ++ ", SignedHeaders=" ++ ";".intercalate names ++ ", Signature=" ++ seed]⟩
        ∧ signed.fields.get? "X-Amz-Date" = some ⟨"X-Amz-Date", [timestamp]⟩
        ∧ s.signingKey now ps standing.credentials.secretAccessKey = .ok key
        ∧ key = scope.signingKey standing.credentials.secretAccessKey
        ∧ signed.body.Delivers items
        ∧ Receiving.walk key timestamp scope.text seed items.flatten = some (parts, [])
        ∧ parts.flatten = request.body.rest
        ∧ signed.fields.get? "X-Amz-Decoded-Content-Length"
          = some ⟨"X-Amz-Decoded-Content-Length", [toString (parts.flatten.length : Int)]⟩ := by
  obtain ⟨decoded, total, names, sig, hchunked, hfound, -, halike, hframed⟩ :=
    sign_chunked hidentity hcontext hchunks hsign
  generalize (DecodedLength.find request.fields request.body).next.frozen = body at halike hframed
  obtain rfl : (request.body.rest.length : Int) = decoded :=
    Except.ok.inj (hlength.symm.trans hfound)
  have hsize := Context.resolve_chunkSize hcontext
  have h0 : 0 < context.chunkSize.toNat := by omega
  have htotal := hchunked.announced
  rw [← halike.rest] at hframed htotal
  obtain ⟨out, hout, hdelivers, -⟩ :=
    Body.frame_total hsize (halike.honest hh) (halike.unfailing _ hu)
      (Signing.chunkSigner_state context _ _) htotal
  rw [hframed] at hout
  rw [← Except.ok.inj hout] at hdelivers
  have hwalk := Receiving.walk_ofPayload (Signing.chunkSigner context
    (context.scope.signingKey standing.credentials.secretAccessKey) sig) h0 body.rest
  have hspelled : context.scope.isSpelled = true := spelled_of_sign hidentity hcontext hsign
  have hflatten : (Framing.slices context.chunkSize.toNat body.rest).flatten = request.body.rest :=
    (Framing.isCut_slices h0 body.rest).flatten_eq.trans halike.rest
  refine ⟨context.scope, context.timestamp, sig, names, _, _, _, hchunked.get?_authorization,
    hchunked.get?_date, signingKey_of_context hcontext hspelled _, rfl, hdelivers, hwalk, hflatten, ?_⟩
  rw [hflatten]
  exact hchunked.get?_decodedLength

/-- A payload in pieces, of a length that a field declares; its bytes look like a line end and a frame. -/
theorem Signer.upload_verifies_pieces :
    let s : Signer := ⟨.sync, { Configuration.service with
      chunkedEncoding := .flag true, chunkSize := .whole 8 }⟩
    let ps : Properties := ⟨[("region", .text "us-east-1"), ("service", .text "s3"),
      ("date", .text "20130524T000000Z")]⟩
    let credentials : Credentials := ⟨"AKIDEXAMPLE", "wJalrXUtnFEMI", none⟩
    let now : Instant := ⟨⟨2013, 5, 24⟩, 0, 0, 0, 0, some 0⟩
    let context : Context := ⟨⟨"20130524", "us-east-1", "s3", "aws4_request", true, true⟩,
      "20130524T000000Z", .header, true, true, 8, false, true, true, 3600⟩
    let request : Request := ⟨⟨"https", "example.com", none, none, none, none⟩, "PUT",
      Fields.empty.set ⟨"Content-Length", ["5"]⟩,
      .pieces ⟨.caller, .sync, false, [[13, 10], [], [48, 59, 13]], 0, none⟩⟩
    ∃ signed, ((Identity.keys credentials none).standing now
          = .ok (some ⟨credentials, none, .flag false, .flag false⟩)
        ∧ Context.resolve s.config ps now = .ok context ∧ context.usesChunks = true
        ∧ request.body.Honest ∧ request.body.Unfailing context.chunkSize.toNat
        ∧ (DecodedLength.find request.fields request.body).result
          = .ok (request.body.rest.length : Int)
        ∧ (s.sign now ps (.keys credentials none) request).result = .ok (.signed signed))
      ∧ ∃ (scope : Scope) (timestamp seed : String) (key : Bytes) (items parts : List Bytes),
        s.signingKey now ps credentials.secretAccessKey = .ok key
          ∧ signed.fields.get? "X-Amz-Date" = some ⟨"X-Amz-Date", [timestamp]⟩
          ∧ signed.body.Delivers items
          ∧ Receiving.walk key timestamp scope.text seed items.flatten = some (parts, [])
          ∧ parts.flatten = [13, 10, 48, 59, 13] := by
  intro s ps credentials now context request
  have hcontext : Context.resolve s.config ps now = .ok context := rfl
  have hh : request.body.Honest := trivial
  have hu : request.body.Unfailing context.chunkSize.toNat := ⟨rfl, fun _ => nofun⟩
  have hlength : (DecodedLength.find request.fields request.body).result
      = .ok (request.body.rest.length : Int) := by
    have hget : request.fields.get? "Content-Length" = some ⟨"Content-Length", ["5"]⟩ :=
      Fields.get?_set_self Fields.empty ⟨"Content-Length", ["5"]⟩
    rw [DecodedLength.find, hget]
    rfl
  obtain ⟨signed, hsign⟩ : ∃ signed,
      (s.sign now ps (.keys credentials none) request).result = .ok (.signed signed) := by
    rw [sign_of_standing rfl rfl rfl rfl hcontext]
    have hfound : (Signing.lengthFor context request).result = .ok (some 5) :=
      congrArg (Except.map some) hlength
    have htotal : Frame.totalLength 5 8 = .ok 177 :=
      Framing.totalLength_of_lt (by decide) (by decide) (by decide)
    refine Signing.signIn_chunked rfl rfl rfl credentials hfound htotal
      (Signing.isSome_showInt? (by decide)) fun signer => ?_
    exact ⟨_, Body.frame_of_feed rfl rfl⟩
  refine ⟨signed, ⟨rfl, hcontext, rfl, hh, hu, hlength, hsign⟩, ?_⟩
  obtain ⟨scope, timestamp, seed, names, key, items, parts, -, hdate, hkey, -, hitems, hwalk, hparts,
    -⟩ := upload_verifies rfl hcontext rfl hh hu hlength hsign
  exact ⟨scope, timestamp, seed, key, items, parts, hkey, hdate, hitems, hwalk, hparts⟩

/-- **A body in memory is NOT DELIVERED in chunks whose size it cannot count,** although it was signed for
them: every read of what is sent fails. -/
theorem Signer.upload_uncountable {s : Signer} {now : Instant} {ps : Properties} {identity : Identity}
    {standing : Standing} {context : Context} {request signed : Request} {b : Buffer}
    (hidentity : identity.standing now = .ok (some standing))
    (hcontext : Context.resolve s.config ps now = .ok context)
    (hchunks : context.usesChunks = true)
    (hfeed : (DecodedLength.find request.fields request.body).next.frozen.feed?
      = some (.direct (.buffer b)))
    (hopen : b.closed = false) (hcount : Buffer.isCountable (some context.chunkSize) = false)
    (hsign : (s.sign now ps identity request).result = .ok (.signed signed)) (size : Option Int)
    (hsize : size ≠ some 0) :
    ∃ o, signed.body.read? size = some o ∧ o.result = .error .pastWord := by
  obtain ⟨decoded, total, names, sig, -, -, -, -, hframed⟩ :=
    sign_chunked hidentity hcontext hchunks hsign
  obtain ⟨out, hout, hfails⟩ := Body.frame_uncountable hfeed hopen
    (Signing.chunkSigner_state context _ sig) (Context.resolve_chunkSize hcontext) hcount decoded
  rw [hframed] at hout
  rw [Except.ok.inj hout]
  exact hfails size hsize

/-- FIVE BYTES IN MEMORY are signed for chunks of 2⁶³ bytes, with their length, and no receiver gets them. -/
theorem Signer.upload_undelivered_past_word :
    let s : Signer := ⟨.sync, { Configuration.service with
      chunkedEncoding := .flag true, chunkSize := .whole 9223372036854775808 }⟩
    let ps : Properties := ⟨[("region", .text "us-east-1"), ("service", .text "s3"),
      ("date", .text "20130524T000000Z")]⟩
    let credentials : Credentials := ⟨"AKIDEXAMPLE", "wJalrXUtnFEMI", none⟩
    let now : Instant := ⟨⟨2013, 5, 24⟩, 0, 0, 0, 0, some 0⟩
    let request : Request := ⟨⟨"https", "example.com", none, none, none, none⟩, "PUT", .empty,
      .bytes [104, 101, 108, 108, 111]⟩
    request.body.Yields [104, 101, 108, 108, 111]
      ∧ (DecodedLength.find request.fields request.body).result = .ok 5
      ∧ ∃ signed, (s.sign now ps (.keys credentials none) request).result = .ok (.signed signed)
        ∧ (∃ o, signed.body.read? none = some o ∧ o.result = .error .pastWord)
        ∧ ¬∃ items, signed.body.Delivers items := by
  intro s ps credentials now request
  let context : Context := ⟨⟨"20130524", "us-east-1", "s3", "aws4_request", true, true⟩,
    "20130524T000000Z", .header, true, true, 9223372036854775808, false, true, true, 3600⟩
  have hcontext : Context.resolve s.config ps now = .ok context := rfl
  have hcount : Buffer.isCountable (some context.chunkSize) = false := by decide
  have hfound : (DecodedLength.find request.fields request.body).result = .ok 5 := rfl
  obtain ⟨signed, hsign⟩ : ∃ signed,
      (s.sign now ps (.keys credentials none) request).result = .ok (.signed signed) := by
    rw [sign_of_standing rfl rfl rfl rfl hcontext]
    have htotal : Frame.totalLength 5 9223372036854775808 = .ok 177 :=
      Framing.totalLength_of_lt (by decide) (by decide) (by decide)
    refine Signing.signIn_chunked rfl rfl rfl credentials (congrArg (Except.map some) hfound) htotal
      (Signing.isSome_showInt? (by decide)) fun signer => ?_
    exact ⟨_, Body.frame_of_feed rfl rfl⟩
  obtain ⟨o, hread, herror⟩ := upload_uncountable rfl hcontext rfl rfl rfl hcount hsign none nofun
  exact ⟨fun _ _ _ => rfl, hfound, signed, hsign, ⟨o, hread, herror⟩,
    fun ⟨_, hdelivers⟩ => Body.not_delivers_of_error hread herror _ hdelivers⟩

end SigV4
