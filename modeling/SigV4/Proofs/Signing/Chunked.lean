/-
  CHUNKED SIGNINGS: a request that is sent in signed chunks, after it was signed.

  1. **Inversion** — `Steps.chunked` lists what such a signing did: a length was found, the fields that
     announce it were written, and the body was framed behind the signature of the request.
  2. **Fields** — each of them is FOUND again in the request that is sent: later writes have other keys.
  3. **The body** — measuring it, and making its bytes unchangeable, leaves its contents alone.

  `Signer.sign_chunked` says all of this of a signer; nothing below opens a signing in chunks again.
-/
import SigV4.Proofs.Payload.Contents
import SigV4.Proofs.Signing.Verification

namespace SigV4

/-! ## Inversion -/

theorem Context.resolve_chunkSize {config : Configuration} {ps : Properties} {now : Instant}
    {context : Context} (h : Context.resolve config ps now = .ok context) :
    1 ≤ context.chunkSize := by
  have hsize := (resolve_ok h).chunkSize
  unfold chunkSizeOf at hsize
  split at hsize
  · split at hsize
    · exact nomatch hsize
    · rename_i hn
      rw [← Except.ok.inj hsize]
      omega
  · exact nomatch hsize

/-- Chunks are ANNOUNCED IN THE HEADER only. -/
theorem Context.resolve_chunks {config : Configuration} {ps : Properties} {now : Instant}
    {context : Context} (h : Context.resolve config ps now = .ok context)
    (hc : context.usesChunks = true) : context.writesHeaders = true :=
  (resolve_ok h).placed hc

/-- A synchronous signer signs in any context. -/
theorem Signer.sign_of_standing {s : Signer} (hsync : s.access = .sync) {now : Instant}
    {ps : Properties} {identity : Identity} {standing : Standing}
    (hidentity : identity.standing now = .ok (some standing))
    (hknown : standing.isAnonymous.isSet = false) (hvalid : standing.isExpired.isSet = false)
    {context : Context} (hcontext : Context.resolve s.config ps now = .ok context)
    (request : Request) :
    s.sign now ps identity request
      = Signing.signIn s.access context standing.credentials request :=
  sign_of_accepted (by simp [hsync]) hidentity hknown hvalid hcontext request

namespace Signing

/-- The fields that announce a body in chunks. -/
def announcement (context : Context) (credentials : Credentials) (decoded total : Int)
    (fields : Fields) : Fields :=
  let stamped := stampFields context credentials fields
  (((stamped.set ⟨"Content-Encoding", chunkedEncodings stamped⟩).set
      ⟨"Content-Length", [toString total]⟩).set
      ⟨"X-Amz-Decoded-Content-Length", [toString decoded]⟩).set
    ⟨"X-Amz-Content-SHA256", [PayloadHash.streamingPayload]⟩

/-- **What signing did to a request that is sent in chunks.** -/
structure Chunked (context : Context) (credentials : Credentials) (request signed : Request)
    (decoded total : Int) (names : List String) (sig : String) : Prop where
  measured : (lengthFor context request).result = .ok (some decoded)
  announced : Frame.totalLength decoded context.chunkSize = .ok total
  fields : signed.fields = (announcement context credentials decoded total request.fields).set
    (authorizationField (credential context credentials) names sig)
  framed : (lengthFor context request).next.frozen.frame
    (chunkSigner context (context.scope.signingKey credentials.secretAccessKey) sig)
    context.chunkSize decoded = .ok signed.body

theorem compute_chunked {context : Context} (hc : context.usesChunks = true) (access : Access)
    (body : Body) :
    PayloadHash.compute access context body
      = ⟨.ok PayloadHash.streamingPayload, ⟨body, none⟩, []⟩ := by
  have hsigning : context.payloadSigning = true := by
    rw [Context.usesChunks, Bool.and_eq_true] at hc
    exact hc.2
  have hword : PayloadHash.placeholder? context = some PayloadHash.streamingPayload := by
    rw [PayloadHash.placeholder?, hsigning, hc]
    rfl
  unfold PayloadHash.compute
  rw [hword]

theorem announceChunks_ok {chunkSize decoded : Int} {fields fields' : Fields}
    (h : announceChunks chunkSize decoded fields = .ok fields') :
    ∃ total, Frame.totalLength decoded chunkSize = .ok total
      ∧ fields' = ((fields.set ⟨"Content-Encoding", chunkedEncodings fields⟩).set
          ⟨"Content-Length", [toString total]⟩).set
          ⟨"X-Amz-Decoded-Content-Length", [toString decoded]⟩ := by
  unfold announceChunks at h
  obtain ⟨total, htotal, h⟩ := ok_of_bind_ok h
  unfold Text.showInt? at h
  refine ⟨total, htotal, ?_⟩
  split at h
  · rename_i length hlength
    split at hlength
    · rw [Option.some.inj hlength]
      exact (Except.ok.inj h).symm
    · exact nomatch hlength
  · exact nomatch h

/-- A number of few digits can be written. -/
theorem isSome_showInt? {i : Int} (h : i.natAbs < Nat.pow 10 20) :
    (Text.showInt? i).isSome = true := by
  have hpow (n : Nat) (hn : 20 ≤ n) : Nat.pow 10 20 ≤ Nat.pow 10 n :=
    Nat.pow_le_pow_right (by decide) hn
  unfold Text.showInt?
  rw [if_pos (Nat.lt_of_lt_of_le h (hpow Text.maxDigits (by decide)))]
  rfl

/-- A length that can be written can be announced. -/
theorem announceChunks_shown {chunkSize decoded total : Int}
    (htotal : Frame.totalLength decoded chunkSize = .ok total)
    (hshown : (Text.showInt? total).isSome = true) (fields : Fields) :
    ∃ fields', announceChunks chunkSize decoded fields = .ok fields' := by
  obtain ⟨length, hlength⟩ := Option.isSome_iff_exists.mp hshown
  unfold announceChunks
  rw [htotal]
  simp only [bind, Except.bind, hlength]
  exact ⟨_, rfl⟩

/-- The preparation leaves the body alone. -/
theorem body_prepare {context : Context} {credentials : Credentials} {decoded : Option Int}
    {request prepared : Request} (h : prepare context credentials decoded request = .ok prepared) :
    prepared.body = request.body := by
  unfold prepare at h
  split at h
  · rw [← Except.ok.inj h]
  · cases decoded with
    | none => rw [← Except.ok.inj h]
    | some length =>
      obtain ⟨fields, -, rfl⟩ := ok_of_map_ok h
      rfl

/-- In chunks, the preparation stamps the fields and announces the length. -/
theorem prepare_chunked {context : Context} (hw : context.writesHeaders = true)
    (credentials : Credentials) (decoded : Int) (request : Request) :
    prepare context credentials (some decoded) request
      = (announceChunks context.chunkSize decoded
          (stampFields context credentials request.fields)).map
          fun fields => { request with fields := fields } :=
  if_neg (by simp [hw])

/-- The preparation writes the announcement, but for the hash. -/
theorem prepare_announces {context : Context} (hw : context.writesHeaders = true)
    {credentials : Credentials} {decoded : Int} {request prepared : Request}
    (h : prepare context credentials (some decoded) request = .ok prepared) :
    ∃ total, Frame.totalLength decoded context.chunkSize = .ok total
      ∧ prepared.fields.set ⟨"X-Amz-Content-SHA256", [PayloadHash.streamingPayload]⟩
        = announcement context credentials decoded total request.fields := by
  rw [prepare_chunked hw] at h
  obtain ⟨fields, hfields, rfl⟩ := ok_of_map_ok h
  obtain ⟨total, htotal, hchain⟩ := announceChunks_ok hfields
  exact ⟨total, htotal, congrArg (Fields.set · _) hchain⟩

/-- The last steps write the hash and the signature, and frame the body behind the signature. -/
theorem finish_chunked {context : Context} (hc : context.usesChunks = true)
    (hw : context.writesHeaders = true) {credentials : Credentials} {decoded : Int} {hash : String}
    {request signed : Request}
    (h : (finish context credentials (some decoded) hash request).1 = .ok signed) :
    let canonical := canonicalRequest context hash signed
    let key := context.scope.signingKey credentials.secretAccessKey
    let sig := signature key (stringToSign context canonical.text)
    signed.fields = (request.fields.set ⟨"X-Amz-Content-SHA256", [hash]⟩).set
        (authorizationField (credential context credentials) (canonical.fields.map Prod.fst) sig)
      ∧ request.body.frame (chunkSigner context key sig) context.chunkSize decoded
        = .ok signed.body := by
  intro canonical key sig
  obtain ⟨hsigned, -⟩ := finish_writes hw h
  have hsame : canonical = canonicalRequest context hash (writeHash context hash request) :=
    (congrArg (canonicalRequest context hash) hsigned).trans
      (canonicalRequest_authorized context hash _ _ _ _ _)
  have hhashed : writeHash context hash request
      = request.setField "X-Amz-Content-SHA256" [hash] := by
    rw [writeHash, if_pos]
    rw [hw, hc, Bool.or_true, Bool.true_and]
  have hcompleted : frameBody context key sig (some decoded)
      (complete context credentials (canonical.fields.map Prod.fst) sig
        (request.setField "X-Amz-Content-SHA256" [hash])) = .ok signed := by
    rw [← hhashed]
    show frameBody context key (signature key (stringToSign context canonical.text)) (some decoded)
      (complete context credentials (canonical.fields.map Prod.fst)
        (signature key (stringToSign context canonical.text)) _) = _
    rw [hsame, ← h, finish_of_spelled (spelled_of_finish h)]
    rfl
  rw [complete, if_pos hw] at hcompleted
  obtain ⟨body, hbody, hs⟩ := ok_of_map_ok hcompleted
  have hb : signed.body = body := by rw [← hs]
  rw [hb]
  exact ⟨by rw [← hs]; rfl, hbody⟩

/-- **A signing in chunks, taken apart.** -/
theorem Steps.chunked {access : Access} {context : Context} {credentials : Credentials}
    {request prepared signed : Request} {decoded? : Option Int} {hash : String}
    (h : Steps access context credentials request decoded? prepared hash signed)
    (hc : context.usesChunks = true) (hw : context.writesHeaders = true) :
    ∃ decoded total, Chunked context credentials request signed decoded total
      ((canonicalRequest context hash signed).fields.map Prod.fst)
      (signature (context.scope.signingKey credentials.secretAccessKey)
        (stringToSign context (canonicalRequest context hash signed).text)) := by
  have hmeasured := h.measured
  rw [lengthFor, if_pos hc] at hmeasured
  obtain ⟨decoded, -, rfl⟩ := ok_of_map_ok hmeasured
  obtain ⟨total, htotal, hfields⟩ := prepare_announces hw h.written
  have hhash : hash = PayloadHash.streamingPayload := by
    have hhashed := h.hashed
    rw [compute_chunked hc] at hhashed
    exact (Except.ok.inj hhashed).symm
  have hfinished := h.finished
  rw [compute_chunked hc, Request.freezeBytes_eq] at hfinished
  obtain ⟨hwritten, hframed⟩ := finish_chunked hc hw hfinished
  refine ⟨decoded, total, h.measured, htotal, ?_, ?_⟩
  · rw [hwritten, ← hfields, hhash]
  · rw [← hframed]
    show _ = prepared.body.frozen.frame _ _ _
    rw [body_prepare h.written]

/-- A chunk can be signed behind the signature of a request. -/
theorem chunkSigner_state (context : Context) (key : Bytes) (sig : String) :
    (chunkSigner context key sig).state ≠ .terminal :=
  nofun

/-- In chunks, a signature in the header fails only where the length is not found or cannot be written, or
where the body cannot be framed, if date, region and service are texts. -/
theorem signIn_chunked {access : Access} {context : Context} (hc : context.usesChunks = true)
    (hspelled : context.scope.isSpelled = true) (hw : context.writesHeaders = true)
    (credentials : Credentials) {request : Request} {decoded total : Int}
    (hfound : (lengthFor context request).result = .ok (some decoded))
    (htotal : Frame.totalLength decoded context.chunkSize = .ok total)
    (hshown : (Text.showInt? total).isSome = true)
    (hframe : ∀ signer, ∃ out, (lengthFor context request).next.frozen.frame signer
      context.chunkSize decoded = .ok out) :
    ∃ signed, (signIn access context credentials request).result = .ok (.signed signed) := by
  obtain ⟨prepared, hprepared⟩ : ∃ prepared, prepare context credentials (some decoded)
      { request with body := (lengthFor context request).next } = .ok prepared := by
    obtain ⟨fields, hfields⟩ := announceChunks_shown htotal hshown
      (stampFields context credentials request.fields)
    rw [prepare_chunked hw, hfields]
    exact ⟨_, rfl⟩
  have hbody := body_prepare hprepared
  have hfinish : ∃ signed, (finish context credentials (some decoded) PayloadHash.streamingPayload
      ({ prepared with body := prepared.body } : Request).freezeBytes).1 = .ok signed := by
    rw [Request.freezeBytes_eq]
    have hsame (names : List String) (sig : String) (r : Request) :
        (complete context credentials names sig r).body = r.body := by
      unfold complete
      split <;> rfl
    rw [finish_of_spelled hspelled]
    simp only [conclude, frameBody, hsame, body_writeHash, hbody]
    obtain ⟨out, hout⟩ := hframe _
    rw [hout]
    exact ⟨_, rfl⟩
  obtain ⟨signed, hsigned⟩ := hfinish
  refine ⟨signed, ?_⟩
  rw [signIn, Outcome.andThen, hfound]
  simp only [hprepared, compute_chunked hc, Outcome.result_after]
  exact congrArg (Except.map Signed.signed) hsigned

/-! ## Fields -/

variable {context : Context} {credentials : Credentials} {request signed : Request}
  {decoded total : Int} {names : List String} {sig : String}

theorem Chunked.get?_authorization
    (h : Chunked context credentials request signed decoded total names sig) :
    signed.fields.get? "Authorization"
      = some (authorizationField (credential context credentials) names sig) := by
  rw [h.fields]
  exact Fields.get?_set_self _ _

theorem Chunked.get?_decodedLength
    (h : Chunked context credentials request signed decoded total names sig) :
    signed.fields.get? "X-Amz-Decoded-Content-Length"
      = some ⟨"X-Amz-Decoded-Content-Length", [toString decoded]⟩ := by
  rw [h.fields, authorizationField, Fields.get?_set_of_ne _ _ (by decide), announcement,
    Fields.get?_set_of_ne _ _ (by decide)]
  exact Fields.get?_set_self _ _

theorem Chunked.get?_length
    (h : Chunked context credentials request signed decoded total names sig) :
    signed.fields.get? "Content-Length" = some ⟨"Content-Length", [toString total]⟩ := by
  rw [h.fields, authorizationField, Fields.get?_set_of_ne _ _ (by decide), announcement,
    Fields.get?_set_of_ne _ _ (by decide), Fields.get?_set_of_ne _ _ (by decide)]
  exact Fields.get?_set_self _ _

theorem Chunked.get?_date
    (h : Chunked context credentials request signed decoded total names sig) :
    signed.fields.get? "X-Amz-Date" = some ⟨"X-Amz-Date", [context.timestamp]⟩ := by
  have hstamped : (stampFields context credentials request.fields).get? "X-Amz-Date"
      = some ⟨"X-Amz-Date", [context.timestamp]⟩ := by
    unfold stampFields
    cases credentials.sessionToken with
    | some token =>
      dsimp only
      rw [Fields.get?_set_of_ne _ _ (by decide)]
      exact Fields.get?_set_self _ _
    | none =>
      dsimp only
      rw [Fields.get?_erase_of_ne _ (by decide)]
      exact Fields.get?_set_self _ _
  rw [h.fields, authorizationField, Fields.get?_set_of_ne _ _ (by decide), announcement,
    Fields.get?_set_of_ne _ _ (by decide), Fields.get?_set_of_ne _ _ (by decide),
    Fields.get?_set_of_ne _ _ (by decide), Fields.get?_set_of_ne _ _ (by decide), hstamped]

/-! ## The body -/

/-- In chunks, the signing leaves the body as the measuring did. -/
theorem signIn_next_chunked {access : Access} {context : Context} (hc : context.usesChunks = true)
    {credentials : Credentials} {request signed : Request}
    (h : (signIn access context credentials request).result = .ok (.signed signed)) :
    (signIn access context credentials request).next = (lengthFor context request).next := by
  unfold signIn Outcome.andThen at h ⊢
  cases hl : (lengthFor context request).result with
  | error e => rfl
  | ok decoded =>
    rw [hl] at h
    simp only [Outcome.result_after, Outcome.next_after] at h ⊢
    split at h
    · exact nomatch h
    · rename_i prepared hp
      rw [compute_chunked hc]
      exact body_prepare hp

end Signing

/-- `next` has the contents of `body`, and can be read where that can. -/
structure Body.Alike (body next : Body) : Prop where
  rest : next.rest = body.rest
  honest : body.Honest → next.Honest
  unfailing : ∀ size, body.Unfailing size → next.Unfailing size

/-- **Finding the length of a body leaves its contents alone.** -/
theorem DecodedLength.alike_find (fields : Fields) (body : Body) :
    body.Alike (find fields body).next.frozen := by
  have hsame : body.Alike body.frozen := by
    cases body <;> exact ⟨rfl, id, fun _ => id⟩
  unfold find
  split
  · exact hsame
  · split
    · exact hsame
    · cases body with
      | stream s =>
        unfold measured
        dsimp only
        split
        · exact ⟨rfl, id, fun _ => id⟩
        · exact hsame
        · exact hsame
      | _ => exact hsame

/-- **A signing in chunks that succeeded:** a length was found, the body was left as finding it leaves it,
and what has the body's contents was framed with that length. -/
theorem Signer.sign_chunked {s : Signer} {now : Instant} {ps : Properties} {identity : Identity}
    {standing : Standing} {context : Context} {request signed : Request}
    (hidentity : identity.standing now = .ok (some standing))
    (hcontext : Context.resolve s.config ps now = .ok context)
    (hchunks : context.usesChunks = true)
    (hsign : (s.sign now ps identity request).result = .ok (.signed signed)) :
    ∃ (decoded total : Int) (names : List String) (sig : String),
      Signing.Chunked context standing.credentials request signed decoded total names sig
        ∧ (DecodedLength.find request.fields request.body).result = .ok decoded
        ∧ (s.sign now ps identity request).next
          = (DecodedLength.find request.fields request.body).next
        ∧ request.body.Alike (DecodedLength.find request.fields request.body).next.frozen
        ∧ (DecodedLength.find request.fields request.body).next.frozen.frame
          (Signing.chunkSigner context
            (context.scope.signingKey standing.credentials.secretAccessKey) sig)
          context.chunkSize decoded = .ok signed.body := by
  obtain ⟨context', hcontext', heq⟩ := sign_eq_signIn hidentity hsign
  obtain rfl : context = context' := Except.ok.inj (hcontext.symm.trans hcontext')
  rw [heq] at hsign ⊢
  obtain ⟨_, prepared, hash, hsteps⟩ := Signing.signIn_ok hsign
  obtain ⟨decoded, total, hchunked⟩ :=
    hsteps.chunked hchunks (Context.resolve_chunks hcontext hchunks)
  have hlengthFor : Signing.lengthFor context request
      = (DecodedLength.find request.fields request.body).map some := if_pos hchunks
  have hfound : (DecodedLength.find request.fields request.body).result = .ok decoded := by
    have hm := hchunked.measured
    rw [hlengthFor] at hm
    obtain ⟨found, hfound, hsome⟩ := ok_of_map_ok hm
    rw [hfound, Option.some.inj hsome]
  have hframed := hchunked.framed
  rw [hlengthFor] at hframed
  refine ⟨decoded, total, _, _, hchunked, hfound, ?_,
    DecodedLength.alike_find request.fields request.body, hframed⟩
  rw [Signing.signIn_next_chunked hchunks hsign, hlengthFor, Outcome.next_map]

end SigV4
