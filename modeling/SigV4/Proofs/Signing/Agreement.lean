/-
  The two signers AGREE.

  1. **Agreement** — `Signed.Agree`: the same fault, or no need for a signature, or two requests that are
     equal but for their bodies, both of which yield the payload.
  2. **The payload** — without chunks, the hash of a body depends on nothing but the payload: `hashOf` does
     not know by whom, in what blocks or from what kind of body it was read (`compute_yields`).  A signer
     has to be able to read the body only if payloads are signed.
  3. **The refusals** — what keeps the one signer from signing keeps the other, in the same order: the
     identity, its expiration, the properties (`Signer.verdict_async`).

  The crux is that the signers part only in `compute`, since `authorize` does not look at the body.
-/
import SigV4.Proofs.Signing.Sent

namespace SigV4

/-! ## Agreement -/

/-- **What two signers answer who cannot be told apart,** where both are given a payload. -/
inductive Signed.Agree (data : Bytes) : Except Fault Signed → Except Fault Signed → Prop where
  | refused (fault : Fault) : Agree data (.error fault) (.error fault)
  | unchanged : Agree data (.ok .unchanged) (.ok .unchanged)
  /-- Method, address and fields are equal, and both bodies yield the payload. -/
  | signed {request other : Request} (hbut : other = { request with body := other.body })
      (hbody : request.body.Yields data) (hother : other.body.Yields data) :
      Agree data (.ok (.signed request)) (.ok (.signed other))

/-! ## The payload -/

/-- A body with frozen bytes yields what it yielded before. -/
theorem Body.Yields.frozen {body : Body} {data : Bytes} (h : body.Yields data) :
    body.frozen.Yields data := by
  cases body <;> exact h

namespace PayloadHash

/-- The hash of a payload that is not sent in chunks, or the word for one that is not signed. -/
def hashOf (context : Context) (data : Bytes) : String :=
  if context.payloadSigning then Sha256.hexDigest data else unsignedPayload

/-- **Without chunks a body has the hash of its payload,** and a body with this payload is sent, if the signer
takes the body or need not read it. -/
theorem compute_yields {access : Access} {context : Context} {body : Body} {data : Bytes}
    (hplain : context.usesChunks = false)
    (hread : context.payloadSigning = true → body.Supported access) (h : body.Yields data) :
    (compute access context body).result = .ok (hashOf context data)
      ∧ (compute access context body).next.sent.frozen.Yields data := by
  cases hsigning : context.payloadSigning with
  | true =>
    have hreliable := (hread hsigning).reliable h
    obtain rfl : data = body.rest := h.unique hreliable.yields
    have hhashed := ofBody_hashed hreliable
    rw [compute_of_plain hsigning hplain, hashOf, hsigning, if_pos rfl, ← hhashed.rest]
    exact ⟨hhashed.rest ▸ hhashed.result, hhashed.sent.yields⟩
  | false =>
    have hword : compute access context body = ⟨.ok unsignedPayload, ⟨body, none⟩, []⟩ := by
      unfold compute placeholder?
      rw [hsigning]
      rfl
    rw [hword, hashOf, hsigning, if_neg Bool.false_ne_true]
    exact ⟨rfl, h.frozen⟩

end PayloadHash

/-! ## The refusals -/

/-- Where nothing is sent in chunks, the verdict does not depend on WHO gives it. -/
theorem Signer.verdict_async {config : Configuration} {ps : Properties} {now : Instant}
    (hplain : ∀ context, Context.resolve config ps now = .ok context → context.usesChunks = false)
    (identity : Identity) :
    verdict ⟨.async, config⟩ now ps identity = verdict ⟨.sync, config⟩ now ps identity := by
  unfold verdict
  dsimp only
  cases hcontext : Context.resolve config ps now with
  | error e => rfl
  | ok context => simp [hplain context hcontext]

/-! ## Both signers -/

section Both

variable {config : Configuration} {ps : Properties} {now : Instant} {request other : Request}
  {data : Bytes}

/-- In one context both signers sign the same request, or both refuse to make a key. -/
theorem Signing.signIn_agree {context : Context} (hplain : context.usesChunks = false)
    (hbut : other = { request with body := other.body })
    (hread : context.payloadSigning = true →
      request.body.Supported .sync ∧ other.body.Supported .async)
    (hyields : request.body.Yields data) (hyields' : other.body.Yields data)
    (credentials : Credentials) :
    Signed.Agree data (signIn .sync context credentials request).result
      (signIn .async context credentials other).result := by
  obtain ⟨hhash, hsent⟩ := PayloadHash.compute_yields hplain (fun h => (hread h).1) hyields
  obtain ⟨hhash', hsent'⟩ := PayloadHash.compute_yields hplain (fun h => (hread h).2) hyields'
  rw [(signIn_of_plain hplain .sync credentials request).1,
    (signIn_of_plain hplain .async credentials other).1, hhash, hhash']
  cases hspelled : context.scope.isSpelled with
  | false => exact .refused .notText
  | true =>
    refine Signed.Agree.signed ?_ hsent hsent'
    rw [hbut, authorize_body]

/-- **THE TWO SIGNERS AGREE.**  Given requests that are equal but for their bodies, and bodies that yield the
same payload — where payloads are signed, bodies that each of them takes —, they refuse with the same fault,
both find that no signature is needed, or sign with equal method, address and fields and with bodies that
yield this payload; and they tell the same canonical form and the same text to sign. -/
theorem Signer.async_agrees
    (hplain : ∀ context, Context.resolve config ps now = .ok context → context.usesChunks = false)
    (hbut : other = { request with body := other.body })
    (hread : ∀ context, Context.resolve config ps now = .ok context →
      context.payloadSigning = true → request.body.Supported .sync ∧ other.body.Supported .async)
    (hyields : request.body.Yields data) (hyields' : other.body.Yields data) (identity : Identity) :
    let sync : Signer := ⟨.sync, config⟩
    let async : Signer := ⟨.async, config⟩
    Signed.Agree data (sync.sign now ps identity request).result
        (async.sign now ps identity other).result
      ∧ (sync.canonicalText now ps request).result = (async.canonicalText now ps other).result
      ∧ ∀ canonical, sync.stringToSign now ps canonical = async.stringToSign now ps canonical := by
  intro sync async
  refine ⟨?_, ?_, fun canonical => rfl⟩
  · rw [sign_eq, sign_eq, verdict_async hplain]
    cases hverdict : sync.verdict now ps identity with
    | error fault => exact .refused fault
    | ok signs =>
      cases signs with
      | none => exact .unchanged
      | some found =>
        obtain ⟨-, -, -, -, hcontext, -, -⟩ := verdict_eq_some_iff.mp hverdict
        exact Signing.signIn_agree (hplain found.2 hcontext) hbut (hread found.2 hcontext)
          hyields hyields' found.1
  · cases hcontext : Context.resolve config ps now with
    | error fault =>
      have hrefused (s : Signer) (hs : s.config = config) (r : Request) :
          (s.canonicalText now ps r).result = .error fault := by
        unfold canonicalText
        rw [hs, hcontext]
      rw [hrefused sync rfl, hrefused async rfl]
    | ok context =>
      have hc := hplain context hcontext
      obtain ⟨hhash, -⟩ :=
        PayloadHash.compute_yields hc (fun h => (hread context hcontext h).1) hyields
      obtain ⟨hhash', -⟩ :=
        PayloadHash.compute_yields hc (fun h => (hread context hcontext h).2) hyields'
      rw [canonicalText_of_context (s := sync) hcontext hhash,
        canonicalText_of_context (s := async) hcontext hhash', hbut]
      rfl

end Both

/-- A stream that is read at once, three bytes at a time and not from its start, and the same payload in
parts that are waited for, one of them empty. -/
theorem Signer.async_agrees_stream_parts :
    let config : Configuration := .service
    let sync : Signer := ⟨.sync, config⟩
    let async : Signer := ⟨.async, config⟩
    let ps : Properties := ⟨[("region", .text "us-east-1"), ("service", .text "iam"),
      ("date", .text "20150830T123600Z")]⟩
    let credentials : Credentials := ⟨"AKIDEXAMPLE", "wJalrXUtnFEMI", none⟩
    let now : Instant := ⟨⟨2015, 8, 30⟩, 12, 36, 0, 0, some 0⟩
    let request : Request := ⟨⟨"https", "example.com", none, none, none, none⟩, "PUT", .empty,
      .stream ⟨.sync, some .sync, none, [10, 20, 30, 40, 50], 1, fun _ => some 3, fun _ => false,
        [], []⟩⟩
    let other : Request := ⟨⟨"https", "example.com", none, none, none, none⟩, "PUT", .empty,
      .pieces ⟨.caller, .async, false, [[20], [], [30, 40, 50]], 0, none⟩⟩
    ((∀ context, Context.resolve config ps now = .ok context → context.usesChunks = false)
        ∧ other = { request with body := other.body }
        ∧ request.body.Supported .sync ∧ other.body.Supported .async
        ∧ request.body.Yields [20, 30, 40, 50] ∧ other.body.Yields [20, 30, 40, 50])
      ∧ (∃ signed signed' : Request,
        (sync.sign now ps (.keys credentials none) request).result = .ok (.signed signed)
          ∧ (async.sign now ps (.keys credentials none) other).result = .ok (.signed signed')
          ∧ signed' = { signed with body := signed'.body }
          ∧ signed.body.Yields [20, 30, 40, 50] ∧ signed'.body.Yields [20, 30, 40, 50])
      ∧ (sync.canonicalText now ps request).result = (async.canonicalText now ps other).result := by
  intro config sync async ps credentials now request other
  let context : Context := ⟨⟨"20150830", "us-east-1", "iam", "aws4_request", true, true⟩,
    "20150830T123600Z", .header, true, false, 65536, false, true, true, 3600⟩
  have hcontext : Context.resolve config ps now = .ok context := rfl
  have hplain (found : Context) (h : Context.resolve config ps now = .ok found) :
      found.usesChunks = false := by
    obtain rfl : context = found := Except.ok.inj (hcontext.symm.trans h)
    rfl
  have hbody : request.body.Reliable .sync := ⟨rfl, nofun, fun _ => nofun, fun _ => rfl⟩
  have hother : other.body.Reliable .async := ⟨rfl, nofun⟩
  have hyields : request.body.Yields [20, 30, 40, 50] := hbody.yields
  have hyields' : other.body.Yields [20, 30, 40, 50] := hother.yields
  obtain ⟨hagree, hcanonical, -⟩ :=
    async_agrees hplain rfl (fun _ _ _ => ⟨.inl hbody, .inl hother⟩) hyields hyields'
      (.keys credentials none)
  refine ⟨⟨hplain, rfl, .inl hbody, .inl hother, hyields, hyields'⟩, ?_, hcanonical⟩
  obtain ⟨signed, hsigned⟩ : ∃ signed,
      (sync.sign now ps (.keys credentials none) request).result = .ok (.signed signed) := by
    have hstanding : (Identity.keys credentials none).standing now
        = .ok (some ⟨credentials, none, .flag false, .flag false⟩) := rfl
    have hhash : (PayloadHash.compute .sync context request.body).result
        = .ok (PayloadHash.hashOf context [20, 30, 40, 50]) :=
      (PayloadHash.compute_yields rfl (fun _ => .inl hbody) hyields).1
    rw [sign_of_plain hstanding rfl rfl hcontext rfl,
      (Signing.signIn_of_plain rfl .sync credentials request).1, hhash]
    exact ⟨_, rfl⟩
  rw [hsigned] at hagree
  generalize (async.sign now ps (.keys credentials none) other).result = answer at hagree ⊢
  cases hagree with
  | signed hbut h h' => exact ⟨signed, _, hsigned, rfl, hbut, h, h'⟩

end SigV4
