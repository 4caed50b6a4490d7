/-
  VERIFICATION: whoever gets a signed request finds the same signature.

  1. **The fields** — the signature is written into a field that is not signed, so the canonical form of
     the signed request is the one that was signed (`canonicalRequest_authorized`).
  2. **The payload** — its hash is found again in the body that is sent (`PayloadHash.compute_again`).
  3. **The context** — with a date it is the same at any moment (`Context.resolve_of_date`).

  `sign_verifies` puts them together.  The crux is the ORDER of the steps: all that is written before the
  canonical form is signed, and what is written behind it is the one field that is not.
-/
import SigV4.Proofs.Header.Signable
import SigV4.Proofs.Signing.Hashing
import SigV4.Proofs.Signing.Steps

namespace SigV4

namespace Signing

theorem key_authorizationField (credential : String) (names : List String) (signature : String) :
    (authorizationField credential names signature).key ∈ excludedKeys := by
  have hkey : Text.lower "Authorization" = "authorization" := by decide
  show Text.lower "Authorization" ∈ excludedKeys
  rw [hkey]
  decide

/-- The canonical form DOES NOT SEE the signature. -/
theorem canonicalRequest_authorized (context : Context) (hash credential : String)
    (names : List String) (signature : String) (request : Request) (body : Body) :
    canonicalRequest context hash { request with
        fields := request.fields.set (authorizationField credential names signature), body := body }
      = canonicalRequest context hash request := by
  unfold canonicalRequest
  rw [signedFields_set (key_authorizationField credential names signature)]

/-- The hash of the payload is found again in the request that is sent. -/
theorem Steps.hash_again {access : Access} {context : Context} {credentials : Credentials}
    {request prepared signed : Request} {decoded : Option Int} {hash : String}
    (h : Steps access context credentials request decoded prepared hash signed)
    (hw : context.writesHeaders = true) (hbody : request.body.Repeatable) :
    (PayloadHash.compute access context signed.body).result = .ok hash := by
  have hprepared := prepare_keeps hw h.written
  have hfinished := h.finished
  rw [Request.freezeBytes_eq] at hfinished
  obtain ⟨-, hsent⟩ := finish_writes hw hfinished
  -- a body that is hashed is neither measured before nor framed behind that
  have plain : context.usesChunks = false → decoded = none ∧ prepared.body = request.body := by
    intro hc
    have hmeasured := h.measured
    rw [lengthFor_plain hc] at hmeasured hprepared
    refine ⟨(Except.ok.inj hmeasured).symm, ?_⟩
    rw [hprepared]
  refine PayloadHash.compute_again (fun hc => ?_) h.hashed (fun hc => ?_)
  · rw [(plain hc).2]
    exact hbody
  · exact hsent (plain hc).1

/-- **What is found in a signed request:** its canonical form is the one that was signed. -/
theorem Steps.authorized {access : Access} {context : Context} {credentials : Credentials}
    {request prepared signed : Request} {decoded : Option Int} {hash : String}
    (h : Steps access context credentials request decoded prepared hash signed)
    (hw : context.writesHeaders = true) :
    let canonical := canonicalRequest context hash signed
    let key := context.scope.signingKey credentials.secretAccessKey
    signed.fields.get? "Authorization" = some (authorizationField (credential context credentials)
      (canonical.fields.map Prod.fst) (signature key (stringToSign context canonical.text))) := by
  intro canonical key
  obtain ⟨hsigned, -⟩ := finish_writes hw h.finished
  have hsame : canonical = canonicalRequest context hash (writeHash context hash _) :=
    (congrArg (canonicalRequest context hash) hsigned).trans
      (canonicalRequest_authorized context hash _ _ _ _ _)
  rw [hsame, hsigned]
  exact Fields.get?_set_self _ _

end Signing

/-- **A SIGNED REQUEST VERIFIES.**  Its canonical form, the text that is signed for it and the key of its
scope, found from the request alone at any later moment, give the signature in it; and it names the
fields and the scope that they were found with. -/
theorem Signer.sign_verifies {s : Signer} {now : Instant} {ps : Properties} {identity : Identity}
    {standing : Standing} {request signed : Request}
    (hheader : s.config.signatureLocation = .header) (hdate : (ps.get? "date").isSome = true)
    (hidentity : identity.standing now = .ok (some standing)) (hbody : request.body.Repeatable)
    (hsign : (s.sign now ps identity request).result = .ok (.signed signed)) (later : Instant) :
    ∃ (canonical : CanonicalRequest) (scope : Scope) (timestamp text : String) (key : Bytes),
      (s.canonicalText later ps signed).result = .ok canonical.text
        ∧ canonical.fields = signedFields signed.fields signed.destination
        ∧ s.stringToSign later ps canonical.text = .ok text
        ∧ text = "AWS4-HMAC-SHA256" ++ "\n" ++ timestamp ++ "\n" ++ scope.text ++ "\n"
            ++ Sha256.hexDigest (Utf8.ofString canonical.text)
        ∧ s.signingKey later ps standing.credentials.secretAccessKey = .ok key
        ∧ key = scope.signingKey standing.credentials.secretAccessKey
        ∧ signed.fields.get? "Authorization" = some ⟨"Authorization",
            ["AWS4-HMAC-SHA256" ++ " Credential="
              ++ (standing.credentials.accessKeyId ++ "/" ++ scope.text)
              ++ ", SignedHeaders=" ++ canonical.signedHeaders
              ++ ", Signature=" ++ signature key text]⟩ := by
  obtain ⟨context, decoded, prepared, hash, hcontext, hsteps⟩ := sign_ok hidentity hsign
  have hw : context.writesHeaders = true := by
    rw [Context.writesHeaders, Context.resolve_location hcontext, hheader]
    rfl
  -- whoever verifies resolves the same context, whatever the time is
  have hlater : Context.resolve s.config ps later = .ok context := by
    rw [Context.resolve_of_date hdate s.config now later, hcontext]
  exact ⟨Signing.canonicalRequest context hash signed, context.scope, context.timestamp, _, _,
    canonicalText_of_context hlater (hsteps.hash_again hw hbody), rfl,
    stringToSign_of_context hdate hlater _, rfl, signingKey_of_context hlater hsteps.spelled _, rfl,
    hsteps.authorized hw⟩

/-- A stream that can be sought and delivers two bytes at a time, read to be signed. -/
theorem Signer.sign_verifies_halting_stream :
    let s : Signer := ⟨.sync, .service⟩
    let ps : Properties := ⟨[("region", .text "us-east-1"), ("service", .text "iam"),
      ("date", .text "20150830T123600Z")]⟩
    let credentials : Credentials := ⟨"AKIDEXAMPLE", "wJalrXUtnFEMI", none⟩
    let now : Instant := ⟨⟨2015, 8, 30⟩, 12, 36, 0, 0, some 0⟩
    let request : Request := ⟨⟨"https", "example.com", none, none, none, none⟩, "PUT", .empty,
      .stream ⟨.sync, some .sync, none, [10, 20, 30, 40, 50], 1, fun _ => some 2, fun _ => false,
        [], []⟩⟩
    ∃ signed, (s.config.signatureLocation = .header ∧ (ps.get? "date").isSome = true
        ∧ (Identity.keys credentials none).standing now
          = .ok (some ⟨credentials, none, .flag false, .flag false⟩)
        ∧ request.body.Repeatable
        ∧ (s.sign now ps (.keys credentials none) request).result = .ok (.signed signed))
      ∧ ∃ (canonical : CanonicalRequest) (text : String) (key : Bytes),
        (s.canonicalText now ps signed).result = .ok canonical.text
          ∧ s.stringToSign now ps canonical.text = .ok text
          ∧ s.signingKey now ps credentials.secretAccessKey = .ok key
          ∧ ∃ credential, signed.fields.get? "Authorization"
            = some (Signing.authorizationField credential (canonical.fields.map Prod.fst)
                (signature key text)) := by
  intro s ps credentials now request
  let stream : Stream := ⟨.sync, some .sync, none, [10, 20, 30, 40, 50], 1, fun _ => some 2,
    fun _ => false, [], []⟩
  have hunfailing : stream.Unfailing := fun _ => rfl
  have hhonest : stream.Honest := fun _ => nofun
  have hbody : request.body.Repeatable := ⟨nofun, fun _ => ⟨hunfailing, fun _ _ h => h⟩⟩
  obtain ⟨signed, hsign⟩ : ∃ signed,
      (s.sign now ps (.keys credentials none) request).result = .ok (.signed signed) := by
    let context : Context := ⟨⟨"20150830", "us-east-1", "iam", "aws4_request", true, true⟩,
      "20150830T123600Z", .header, true, false, 65536, false, true, true, 3600⟩
    have hcontext : Context.resolve s.config ps now = .ok context := rfl
    have hstream : ∃ hash, (PayloadHash.compute s.access context request.body).result = .ok hash := by
      obtain ⟨blocks, hb, -⟩ :=
        Source.drain_honest (by decide : 0 < PayloadHash.readSize) hunfailing hhonest
      have hcompute : PayloadHash.compute s.access context request.body
          = PayloadHash.ofSupply .sync PayloadHash.readSize PayloadHash.bodyOf
              (PayloadHash.wayBack true (.stream stream)) (Source.stream stream) := rfl
      rw [hcompute, PayloadHash.ofSupply_result, hb]
      exact ⟨_, rfl⟩
    obtain ⟨hash, hhash⟩ := hstream
    obtain ⟨signed, hsigned⟩ := Signing.signIn_plain rfl rfl rfl credentials hhash
    refine ⟨signed, Eq.trans ?_ hsigned⟩
    show (s.signAs ⟨credentials, none, .flag false, .flag false⟩ now ps request).result = _
    simp only [signAs, hcontext]
    rfl
  refine ⟨signed, ⟨rfl, rfl, rfl, hbody, hsign⟩, ?_⟩
  obtain ⟨canonical, scope, timestamp, text, key, h1, -, h2, -, h3, -, h4⟩ :=
    sign_verifies rfl rfl rfl hbody hsign now
  exact ⟨canonical, text, key, h1, h2, h3, _, h4⟩

end SigV4
