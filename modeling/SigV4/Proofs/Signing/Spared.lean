/-
  What a signing LEAVES ALONE.

  1. **Fields** — in the header mode every field whose key is none of `writtenKeys` is there as it was, in
     the order in which it was; the encodings of a body in chunks are those of the plain body behind the
     chunks'.
  2. **The address** — in the query mode the query is only added to, and nothing else of the address changes.
  3. **The body** — a payload that is not signed is sent as it is, and never looked at.

  The crux is that all writing is SETTING: `Steps.writes` is one row of writes behind the stamp, and whoever
  looks at other keys sees neither.
-/
import SigV4.Proofs.Payload.WireLength
import SigV4.Proofs.Signing.Coverage

namespace SigV4

/-- The encodings that a request announces for its body. -/
def Request.encodings (r : Request) : List String :=
  match r.fields.get? "Content-Encoding" with
  | some f => f.values
  | none => []

namespace Signing

/-! ## What is left alone -/

/-- **The keys of the fields that signing may write.** -/
def writtenKeys (context : Context) : List String :=
  ["x-amz-date", "x-amz-security-token", "authorization"]
  ++ (if context.contentChecksum || context.usesChunks then ["x-amz-content-sha256"] else [])
  ++ if context.usesChunks then
      ["content-encoding", "content-length", "x-amz-decoded-content-length"]
    else []

/-- **`signed` is `request` but for what signing announces.** -/
structure Spared (context : Context) (request signed : Request) : Prop where
  method : signed.method = request.method
  /-- In the header mode the address stays. -/
  address : context.writesHeaders = true → signed.destination = request.destination
  /-- All other fields are there with names and values, in their order. -/
  fields : context.writesHeaders = true →
    signed.fields.toList.filter (·.key ∉ writtenKeys context)
      = request.fields.toList.filter (·.key ∉ writtenKeys context)
  /-- The encodings of the plain body follow that of the chunks. -/
  encodings : context.usesChunks = true →
    signed.encodings = "aws-chunked" :: request.encodings.filter (· ≠ "aws-chunked")
  /-- In the query mode the fields stay. -/
  header : context.writesHeaders = false → signed.fields = request.fields
  /-- The query is added to, and nothing else of the address changes. -/
  query : context.writesHeaders = false → ∃ query : String,
    signed.destination = { request.destination with query := some query }
      ∧ (request.destination.query.getD "").toList <+: query.toList

variable {access : Access} {context : Context} {credentials : Credentials}
  {request prepared signed : Request} {decoded : Option Int} {hash : String}

/-! ## Fields -/

/-- The keys that are stamped are written. -/
theorem mem_writtenKeys_of_stamped {key : String}
    (h : key ∈ ["x-amz-date", "x-amz-security-token"]) : key ∈ writtenKeys context := by
  unfold writtenKeys
  rw [List.append_assoc]
  refine List.mem_append_left _ ?_
  rcases List.mem_cons.mp h with rfl | h
  · decide
  · obtain rfl := List.mem_singleton.mp h
    decide

/-- So are those of the row behind the stamp. -/
theorem mem_writtenKeys_of_set {key : String}
    (h : key ∈ (chunkNames context ++ hashNames context ++ ["Authorization"]).map Text.lower) :
    key ∈ writtenKeys context := by
  have hchunks : (["Content-Encoding", "Content-Length", "X-Amz-Decoded-Content-Length"].map Text.lower)
      = ["content-encoding", "content-length", "x-amz-decoded-content-length"] := by decide
  have hhash : ["X-Amz-Content-SHA256"].map Text.lower = ["x-amz-content-sha256"] := by decide
  have hlast : ["Authorization"].map Text.lower = ["authorization"] := by decide
  unfold chunkNames hashNames at h
  unfold writtenKeys
  rw [List.map_append, List.map_append, hlast] at h
  simp only [List.mem_append] at h ⊢
  rcases h with (h | h) | h
  · cases hc : context.usesChunks with
    | true =>
      rw [hc, if_pos rfl, hchunks] at h
      exact .inr (by rwa [if_pos rfl])
    | false =>
      rw [hc] at h
      exact nomatch h
  · cases hchecksum : context.contentChecksum || context.usesChunks with
    | true =>
      rw [hchecksum, if_pos rfl, hhash] at h
      exact .inl (.inr (by rwa [if_pos rfl]))
    | false =>
      rw [hchecksum] at h
      exact nomatch h
  · obtain rfl := List.mem_singleton.mp h
    exact .inl (.inl (by decide))

/-- **Fields that are not written are there as they were.** -/
theorem Steps.filter_fields
    (h : Steps access context credentials request decoded prepared hash signed)
    (hw : context.writesHeaders = true) :
    signed.fields.toList.filter (·.key ∉ writtenKeys context)
      = request.fields.toList.filter (·.key ∉ writtenKeys context) := by
  rw [(h.writes hw).filter fun g hg => by simpa using mem_writtenKeys_of_set hg]
  exact filter_stampFields_of_other _ fun g hg => by simpa using mem_writtenKeys_of_stamped hg

/-- The stamp is no encoding. -/
theorem get?_stampFields_encoding (fields : Fields) :
    (stampFields context credentials fields).get? "Content-Encoding"
      = fields.get? "Content-Encoding" := by
  unfold stampFields
  cases credentials.sessionToken with
  | some token =>
    dsimp only
    rw [Fields.get?_set_of_ne _ _ (by decide), Fields.get?_set_of_ne _ _ (by decide)]
  | none =>
    dsimp only
    rw [Fields.get?_erase_of_ne _ (by decide), Fields.get?_set_of_ne _ _ (by decide)]

/-- **The encodings of a body in chunks:** those of the plain body, in their order, behind the chunks'. -/
theorem Steps.encodings_eq
    (h : Steps access context credentials request decoded prepared hash signed)
    (hc : context.usesChunks = true) (hw : context.writesHeaders = true) :
    signed.encodings = "aws-chunked" :: request.encodings.filter (· ≠ "aws-chunked") := by
  obtain ⟨length, total, hchunked⟩ := h.chunked hc hw
  let stamped := stampFields context credentials request.fields
  have hfield : signed.fields.get? "Content-Encoding"
      = some ⟨"Content-Encoding", chunkedEncodings stamped⟩ := by
    rw [hchunked.fields, authorizationField, Fields.get?_set_of_ne _ _ (by decide), announcement,
      Fields.get?_set_of_ne _ _ (by decide), Fields.get?_set_of_ne _ _ (by decide),
      Fields.get?_set_of_ne _ _ (by decide)]
    exact Fields.get?_set_self _ ⟨"Content-Encoding", chunkedEncodings stamped⟩
  rw [Request.encodings, hfield]
  show chunkedEncodings stamped = _
  rw [chunkedEncodings, get?_stampFields_encoding, Request.encodings]
  cases request.fields.get? "Content-Encoding" <;> rfl

/-! ## The whole -/

/-- The method STAYS, in either mode. -/
theorem Steps.method_eq
    (h : Steps access context credentials request decoded prepared hash signed)
    (hquery : context.writesHeaders = false → context.usesChunks = false) :
    signed.method = request.method := by
  cases hw : context.writesHeaders with
  | false =>
    obtain ⟨hsigned, -⟩ := h.presigned (hquery hw) hw
    rw [hsigned]
    rfl
  | true =>
    have hfinished := h.finished
    rw [Request.freezeBytes_eq] at hfinished
    obtain ⟨hsigned, -⟩ := finish_writes hw hfinished
    have hwriteHash (r : Request) : (writeHash context hash r).method = r.method := by
      unfold writeHash
      split <;> rfl
    rw [hsigned]
    show (writeHash context hash _).method = _
    rw [hwriteHash, prepare_keeps hw h.written]

/-- **A signing that succeeded left everything else alone.** -/
theorem Steps.spared
    (h : Steps access context credentials request decoded prepared hash signed)
    (hquery : context.writesHeaders = false → context.usesChunks = false) :
    Spared context request signed where
  method := h.method_eq hquery
  address := h.destination_eq
  fields := h.filter_fields
  encodings hc := by
    cases hw : context.writesHeaders with
    | true => exact h.encodings_eq hc hw
    | false => exact nomatch (hquery hw).symm.trans hc
  header hw := by
    obtain ⟨hsigned, -⟩ := h.presigned (hquery hw) hw
    rw [hsigned]
    rfl
  query hw := by
    obtain ⟨hsigned, -⟩ := h.presigned (hquery hw) hw
    rw [hsigned]
    -- the parameters are put behind the query, and the signature behind them
    exact ⟨_, rfl, (Query.toList_isPrefix_append _ _).trans (Query.toList_isPrefix_append (some _) _)⟩

/-! ## The body -/

/-- **A payload that is not signed is not looked at:** there is a word for its hash. -/
theorem signIn_unread (hplain : context.payloadSigning = false)
    (h : (signIn access context credentials request).result = .ok (.signed signed)) :
    signed.body = request.body.frozen
      ∧ (signIn access context credentials request).next = request.body := by
  have hc : context.usesChunks = false := by rw [Context.usesChunks, hplain, Bool.and_false]
  have hhash : PayloadHash.compute access context request.body
      = ⟨.ok PayloadHash.unsignedPayload, ⟨request.body, none⟩, []⟩ := by
    have hword : PayloadHash.placeholder? context = some PayloadHash.unsignedPayload := by
      rw [PayloadHash.placeholder?, hplain]
      rfl
    unfold PayloadHash.compute
    rw [hword]
  obtain ⟨hash, -, hdone⟩ := signIn_plain_ok hc h
  have hnext := (signIn_of_plain hc access credentials request).2
  rw [hhash] at hdone hnext
  exact ⟨Signed.signed.inj hdone ▸ rfl, hnext⟩

end Signing

open Signing

/-- **SIGNING TOUCHES ONLY WHAT IT ANNOUNCES.**  For any signer, moment, properties, identity and request: a
signing that succeeds leaves everything alone but the fields of the keys that it writes, or the end of the
query.  A payload that is not signed is sent as it is, and the request that was given stays as it was, its body
not touched.  (Of a request that is given, a signing can change the body alone: that is its state.) -/
theorem Signer.sign_spares {s : Signer} {now : Instant} {ps : Properties} {identity : Identity}
    {request signed : Request}
    (hsign : (s.sign now ps identity request).result = .ok (.signed signed)) :
    ∃ context, Context.resolve s.config ps now = .ok context ∧ Spared context request signed
      ∧ (context.payloadSigning = false → signed.body = request.body.frozen
        ∧ { request with body := (s.sign now ps identity request).next } = request) := by
  cases hverdict : s.verdict now ps identity with
  | error fault =>
    rw [sign_eq, hverdict] at hsign
    exact nomatch hsign
  | ok signs =>
    cases signs with
    | none =>
      rw [sign_eq, hverdict] at hsign
      exact nomatch hsign
    | some found =>
      obtain ⟨credentials, context⟩ := found
      obtain ⟨-, -, -, -, hcontext, -, -⟩ := verdict_eq_some_iff.mp hverdict
      rw [sign_eq, hverdict] at hsign ⊢
      obtain ⟨decoded, prepared, hash, hsteps⟩ := signIn_ok hsign
      refine ⟨context, hcontext, hsteps.spared (Context.plain_of_query hcontext), fun hplain => ?_⟩
      obtain ⟨hbody, hnext⟩ := signIn_unread hplain hsign
      exact ⟨hbody, by rw [hnext]⟩

/-- A body in chunks that was in chunks before: its other encodings follow in their order, and the fields
around those that are written stay where they were. -/
theorem Signer.sign_spares_encodings :
    let s : Signer := ⟨.sync, { Configuration.service with
      chunkedEncoding := .flag true, chunkSize := .whole 8 }⟩
    let ps : Properties := ⟨[("region", .text "us-east-1"), ("service", .text "s3"),
      ("date", .text "20130524T000000Z")]⟩
    let identity : Identity := .keys ⟨"AKIDEXAMPLE", "wJalrXUtnFEMI", none⟩ none
    let now : Instant := ⟨⟨2013, 5, 24⟩, 0, 0, 0, 0, some 0⟩
    let context : Context := ⟨⟨"20130524", "us-east-1", "s3", "aws4_request", true, true⟩,
      "20130524T000000Z", .header, true, true, 8, false, true, true, 3600⟩
    let request : Request := ⟨⟨"https", "example.com", none, some "/a", some "b=2", none⟩, "PUT",
      .ofList [⟨"X-Custom", ["2", "1"]⟩, ⟨"content-encoding", ["gzip", "aws-chunked", "br"]⟩,
        ⟨"X-AMZ-Date", ["stale"]⟩, ⟨"Accept", ["*/*"]⟩], .bytes [104, 101, 108, 108]⟩
    ∃ signed, (s.sign now ps identity request).result = .ok (.signed signed)
      ∧ signed.encodings = ["aws-chunked", "gzip", "br"]
      ∧ signed.destination = request.destination
      ∧ signed.fields.toList.filter (·.key ∉ writtenKeys context)
        = [⟨"X-Custom", ["2", "1"]⟩, ⟨"Accept", ["*/*"]⟩] := by
  intro s ps identity now context request
  have hcontext : Context.resolve s.config ps now = .ok context := rfl
  obtain ⟨signed, hsign⟩ : ∃ signed, (s.sign now ps identity request).result = .ok (.signed signed) := by
    have hstanding : identity.standing now
        = .ok (some ⟨⟨"AKIDEXAMPLE", "wJalrXUtnFEMI", none⟩, none, .flag false, .flag false⟩) := rfl
    rw [sign_of_standing rfl hstanding rfl rfl hcontext]
    have htotal : Frame.totalLength 4 8 = .ok 176 :=
      Framing.totalLength_of_lt (by decide : 0 < 4) (by decide : 4 ≤ 8) (by decide)
    have hfound : (lengthFor context request).result = .ok (some 4) := rfl
    refine signIn_chunked rfl rfl rfl _ hfound htotal (isSome_showInt? (by decide)) ?_
    intro signer
    exact ⟨_, Body.frame_of_feed rfl rfl⟩
  obtain ⟨context', hcontext', hspared, -⟩ := sign_spares hsign
  obtain rfl : context = context' := Except.ok.inj (hcontext.symm.trans hcontext')
  refine ⟨signed, hsign, ?_, hspared.address rfl, ?_⟩
  · rw [hspared.encodings rfl]
    decide +kernel
  · rw [hspared.fields rfl]
    decide +kernel

end SigV4
