/-
  PRESIGNED ADDRESSES: a signature in the query, and how it is found again.

  1. **What is written** — all parameters but the signature are put behind the query before the canonical
     form is made, the signature behind them afterwards (`Steps.presigned`).  Nothing else in the request
     changes, but that a body which was used up is replaced.
  2. **What is read** — the parameter behind the last `&` is the signature, so without it the address is,
     to the letter, the one whose canonical form was signed (`Address.withoutLastParam_withParams`).

  `presigned_verifies` puts them together.  The crux is that the signed fields are listed BEFORE the address
  changes and are spelled behind that: they look at the address for scheme, host and port only.
-/
import SigV4.Proofs.Signing.Chunked
import SigV4.Proofs.Url.Query

namespace SigV4

namespace Signing

/-! ## What is written -/

/-- The request with all parameters but the signature in its query. -/
def presign (context : Context) (credentials : Credentials) (request : Request) : Request :=
  { request with
    destination := request.destination.withParams (queryParams context credentials request) }

/-- In the query mode the preparation CANNOT FAIL, and writes into the query only. -/
theorem prepare_presign {context : Context} (hw : context.writesHeaders = false)
    (credentials : Credentials) (decoded : Option Int) (request : Request) :
    prepare context credentials decoded request = .ok (presign context credentials request) :=
  if_pos (by simp [hw])

/-- The fields that are signed are THOSE THAT WERE LISTED: what is added to the query is no host. -/
theorem signedFields_withParams (fields : Fields) (a : Address) (params : List (String × String)) :
    signedFields fields (a.withParams params) = signedFields fields a := rfl

/-- **The parameters name the scope and the fields of the canonical form** that is made with them. -/
theorem queryParams_eq (context : Context) (credentials : Credentials) (hash : String)
    (request : Request) :
    queryParams context credentials request
      = [("X-Amz-Algorithm", "AWS4-HMAC-SHA256"),
          ("X-Amz-Credential", credentials.accessKeyId ++ "/" ++ context.scope.text),
          ("X-Amz-Date", context.timestamp), ("X-Amz-Expires", toString context.expires),
          ("X-Amz-SignedHeaders",
            (canonicalRequest context hash (presign context credentials request)).signedHeaders)]
        ++ credentials.sessionToken.toList.map fun token => ("X-Amz-Security-Token", token) := by
  have hnames : (canonicalRequest context hash (presign context credentials request)).signedHeaders
      = ";".intercalate ((signedFields request.fields request.destination).map Prod.fst) := by
    show ";".intercalate ((signedFields request.fields (request.destination.withParams _)).map _) = _
    rw [signedFields_withParams]
  rw [hnames]
  unfold queryParams
  cases credentials.sessionToken with
  | none => rfl
  | some token => rfl

/-- In the query mode the last steps add the signature, and the hash stays out of the header. -/
theorem finish_query {context : Context} (hspelled : context.scope.isSpelled = true)
    (hw : context.writesHeaders = false) (credentials : Credentials) (hash : String) (request : Request) :
    (finish context credentials none hash request).1
      = .ok { request with
          destination := request.destination.withParams [("X-Amz-Signature",
            signature (context.scope.signingKey credentials.secretAccessKey)
              (stringToSign context (canonicalRequest context hash request).text))] } := by
  have hwritten : writeHash context hash request = request := by
    rw [writeHash, hw]
    rfl
  rw [finish_of_spelled hspelled]
  unfold conclude
  rw [hwritten]
  show Except.ok (complete context credentials _ _ request) = _
  rw [complete, hw]
  rfl

/-- **A presigned request, taken apart.** -/
theorem Steps.presigned {access : Access} {context : Context} {credentials : Credentials}
    {request prepared signed : Request} {decoded : Option Int} {hash : String}
    (h : Steps access context credentials request decoded prepared hash signed)
    (hc : context.usesChunks = false) (hw : context.writesHeaders = false) :
    let presigned := presign context credentials request
    let sig := signature (context.scope.signingKey credentials.secretAccessKey)
      (stringToSign context (canonicalRequest context hash presigned).text)
    signed = { presigned with
        destination := presigned.destination.withParams [("X-Amz-Signature", sig)]
        body := (PayloadHash.compute access context request.body).next.sent.frozen }
      ∧ (PayloadHash.compute access context request.body).result = .ok hash := by
  intro presigned sig
  have hmeasured := h.measured
  have hwritten := h.written
  rw [lengthFor_plain hc] at hmeasured hwritten
  rw [prepare_presign hw] at hwritten
  have hbody : prepared.body = request.body := by rw [← Except.ok.inj hwritten]; rfl
  have hhashed := h.hashed
  have hfinished := h.finished
  rw [hbody] at hhashed hfinished
  rw [← Except.ok.inj hmeasured, Request.freezeBytes_eq, finish_query h.spelled hw,
    ← Except.ok.inj hwritten] at hfinished
  exact ⟨(Except.ok.inj hfinished).symm, hhashed⟩

end Signing

/-! ## What is read -/

/-- **A PRESIGNED REQUEST VERIFIES.**  Without the last parameter of its query it is the request with the
parameters of a signature behind its own; the canonical form of that, the text that is signed for it and
the key of its scope, found at any later moment, give the value of the last parameter; and the parameters
name the fields and the scope that they were found with. -/
theorem Signer.presigned_verifies {s : Signer} {now : Instant} {ps : Properties}
    {identity : Identity} {standing : Standing} {request signed : Request}
    (hquery : s.config.signatureLocation = .query) (hdate : (ps.get? "date").isSome = true)
    (hidentity : identity.standing now = .ok (some standing)) (hbody : request.body.Repeatable)
    (hsign : (s.sign now ps identity request).result = .ok (.signed signed)) (later : Instant) :
    let unsigned : Request := { signed with destination := signed.destination.withoutLastParam }
    ∃ (canonical : CanonicalRequest) (scope : Scope) (timestamp text : String) (expires : Int)
        (key : Bytes),
      (s.canonicalText later ps unsigned).result = .ok canonical.text
        ∧ canonical.fields = signedFields unsigned.fields unsigned.destination
        ∧ s.stringToSign later ps canonical.text = .ok text
        ∧ text = "AWS4-HMAC-SHA256" ++ "\n" ++ timestamp ++ "\n" ++ scope.text ++ "\n"
            ++ Sha256.hexDigest (Utf8.ofString canonical.text)
        ∧ s.signingKey later ps standing.credentials.secretAccessKey = .ok key
        ∧ key = scope.signingKey standing.credentials.secretAccessKey
        ∧ unsigned = { request with
            destination := { request.destination with query := unsigned.destination.query }
            body := signed.body }
        ∧ Query.read unsigned.destination.query = Query.read request.destination.query
            ++ ([("X-Amz-Algorithm", "AWS4-HMAC-SHA256"),
                ("X-Amz-Credential", standing.credentials.accessKeyId ++ "/" ++ scope.text),
                ("X-Amz-Date", timestamp), ("X-Amz-Expires", toString expires),
                ("X-Amz-SignedHeaders", canonical.signedHeaders)]
              ++ standing.credentials.sessionToken.toList.map fun token =>
                ("X-Amz-Security-Token", token))
        ∧ Query.read signed.destination.query = Query.read unsigned.destination.query
            ++ [("X-Amz-Signature", signature key text)] := by
  obtain ⟨context, decoded, prepared, hash, hcontext, hsteps⟩ := sign_ok hidentity hsign
  have hw : context.writesHeaders = false := by
    rw [Context.writesHeaders, Context.resolve_location hcontext, hquery]
    rfl
  have hc : context.usesChunks = false := by
    rw [← Bool.not_eq_true]
    intro hc
    rw [Context.resolve_chunks hcontext hc] at hw
    cases hw
  -- whoever verifies resolves the same context, whatever the time is
  have hlater : Context.resolve s.config ps later = .ok context := by
    rw [Context.resolve_of_date hdate s.config now later, hcontext]
  obtain ⟨hsigned, hhash⟩ := hsteps.presigned hc hw
  intro unsigned
  let presigned := Signing.presign context standing.credentials request
  let canonical := Signing.canonicalRequest context hash presigned
  have hdestination : unsigned.destination = presigned.destination := by
    show signed.destination.withoutLastParam = _
    rw [hsigned]
    exact Address.withoutLastParam_withParams _ _ _ _
  have hunsigned : unsigned = { presigned with body := signed.body } := by
    show ({ signed with destination := unsigned.destination } : Request) = _
    rw [hdestination, hsigned]
  have hagain : (PayloadHash.compute s.access context unsigned.body).result = .ok hash :=
    PayloadHash.compute_again (fun _ => hbody) hhash fun _ => congrArg Request.body hsigned
  have hcanonical : Signing.canonicalRequest context hash unsigned = canonical := by
    rw [hunsigned]
    rfl
  refine ⟨canonical, context.scope, context.timestamp, _, context.expires, _, ?_, ?_,
    stringToSign_of_context hdate hlater canonical.text, rfl,
    signingKey_of_context hlater hsteps.spelled _, rfl, ?_, ?_, ?_⟩
  · rw [← hcanonical]
    exact canonicalText_of_context hlater hagain
  · rw [hunsigned]
    rfl
  · rw [hunsigned]
    rfl
  · rw [hdestination, ← Signing.queryParams_eq]
    exact Query.read_append _ _
  · rw [hdestination, hsigned]
    exact Query.read_append _ _

/-- A stream that can be sought, delivers two bytes at a time and is read to be signed; the query has
parameters of its own, and the session a token that must be escaped. -/
theorem Signer.presigned_verifies_halting_stream :
    let s : Signer := ⟨.sync, .plainQuery⟩
    let ps : Properties := ⟨[("region", .text "us-east-1"), ("service", .text "s3"),
      ("date", .text "20150830T123600Z"), ("payload_signing_enabled", .flag true)]⟩
    let credentials : Credentials := ⟨"AKIDEXAMPLE", "wJalrXUtnFEMI", some "a+b/c=&"⟩
    let now : Instant := ⟨⟨2015, 8, 30⟩, 12, 36, 0, 0, some 0⟩
    let request : Request := ⟨⟨"https", "example.com", none, none, some "b=+&a", none⟩, "PUT", .empty,
      .stream ⟨.sync, some .sync, none, [10, 20, 30, 40, 50], 1, fun _ => some 2, fun _ => false,
        [], []⟩⟩
    ∃ signed, (s.config.signatureLocation = .query ∧ (ps.get? "date").isSome = true
        ∧ (Identity.keys credentials none).standing now
          = .ok (some ⟨credentials, none, .flag false, .flag false⟩)
        ∧ request.body.Repeatable
        ∧ (s.sign now ps (.keys credentials none) request).result = .ok (.signed signed))
      ∧ ∃ (canonical : CanonicalRequest) (text : String) (key : Bytes),
        (s.canonicalText now ps
            { signed with destination := signed.destination.withoutLastParam }).result
          = .ok canonical.text
          ∧ s.stringToSign now ps canonical.text = .ok text
          ∧ s.signingKey now ps credentials.secretAccessKey = .ok key
          ∧ ("X-Amz-SignedHeaders", canonical.signedHeaders)
            ∈ Query.read signed.destination.query
          ∧ (Query.read signed.destination.query).getLast?
            = some ("X-Amz-Signature", signature key text) := by
  intro s ps credentials now request
  let stream : Stream := ⟨.sync, some .sync, none, [10, 20, 30, 40, 50], 1, fun _ => some 2,
    fun _ => false, [], []⟩
  have hunfailing : stream.Unfailing := fun _ => rfl
  have hhonest : stream.Honest := fun _ => nofun
  have hbody : request.body.Repeatable := ⟨nofun, fun _ => ⟨hunfailing, fun _ _ h => h⟩⟩
  obtain ⟨signed, hsign⟩ : ∃ signed,
      (s.sign now ps (.keys credentials none) request).result = .ok (.signed signed) := by
    let context : Context := ⟨⟨"20150830", "us-east-1", "s3", "aws4_request", true, true⟩,
      "20150830T123600Z", .query, true, false, 65536, false, false, true, 3600⟩
    have hcontext : Context.resolve s.config ps now = .ok context := rfl
    have hstanding : (Identity.keys credentials none).standing now
        = .ok (some ⟨credentials, none, .flag false, .flag false⟩) := rfl
    obtain ⟨hash, hhash⟩ : ∃ hash,
        (PayloadHash.compute s.access context request.body).result = .ok hash := by
      obtain ⟨blocks, hb, -⟩ :=
        Source.drain_honest (by decide : 0 < PayloadHash.readSize) hunfailing hhonest
      have hcompute : PayloadHash.compute s.access context request.body
          = PayloadHash.ofSupply .sync PayloadHash.readSize PayloadHash.bodyOf
              (PayloadHash.wayBack true (.stream stream)) (Source.stream stream) := rfl
      rw [hcompute, PayloadHash.ofSupply_result, hb]
      exact ⟨_, rfl⟩
    rw [sign_of_standing rfl hstanding rfl rfl hcontext]
    exact Signing.signIn_prepared rfl rfl (Signing.prepare_presign rfl credentials none request) hhash
  refine ⟨signed, ⟨rfl, rfl, rfl, hbody, hsign⟩, ?_⟩
  obtain ⟨canonical, scope, timestamp, text, expires, key, h1, -, h2, -, h3, -, -, h4, h5⟩ :=
    presigned_verifies rfl rfl rfl hbody hsign now
  refine ⟨canonical, text, key, h1, h2, h3, ?_, ?_⟩
  · rw [h5, h4]
    simp
  · rw [h5, List.getLast?_concat]

end SigV4
