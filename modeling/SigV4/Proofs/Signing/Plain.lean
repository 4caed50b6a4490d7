/-
  Signing WITHOUT CHUNKS, in one equation.

  1. **The steps around the hash** — `outfit` writes what is to be signed, `authorize` the hash and the
     signature behind it, each of them in either mode.  Neither can fail, and neither looks at the body
     (`authorize_body`).
  2. **The equation** — so a signing fails where the hash of the payload fails, or behind it where date,
     region and service are not texts, and nowhere else; if it succeeds, the request is authorized with that
     hash and carries the body that the hashing left (`signIn_of_plain`, `signIn_of_spelled`).
  3. **The signature, found again** — `Carries` says where a request has its signature, and that it is the
     one of a canonical form; `unsigned` is the request that has this form (`signIn_carries`).
  4. **The last line** of a canonical form is the hash of the payload (`lastLine_text`).

  The crux is that nothing but the hash reads the body: what is known of the hash is known of the signing.
-/
import SigV4.Proofs.Signing.Presigned
import SigV4.Proofs.Text.Hex

namespace SigV4

/-! ## The steps around the hash -/

namespace Signing

/-- The request with everything that is to be signed but the hash. -/
def outfit (context : Context) (credentials : Credentials) (request : Request) : Request :=
  if context.writesHeaders then
    { request with fields := stampFields context credentials request.fields }
  else presign context credentials request

/-- **The request with the hash of its payload and its signature.** -/
def authorize (context : Context) (credentials : Credentials) (hash : String) (request : Request) :
    Request :=
  let hashed := writeHash context hash (outfit context credentials request)
  let canonical := canonicalRequest context hash hashed
  complete context credentials (canonical.fields.map Prod.fst)
    (signature (context.scope.signingKey credentials.secretAccessKey)
      (stringToSign context canonical.text)) hashed

section Steps

variable (context : Context) (credentials : Credentials) (hash : String) (request : Request)
  (body : Body)

/-- Without chunks the preparation CANNOT FAIL. -/
theorem prepare_outfit :
    prepare context credentials none request = .ok (outfit context credentials request) := by
  unfold outfit
  cases hw : context.writesHeaders with
  | true => exact if_neg (by simp [hw])
  | false => exact prepare_presign hw credentials none request

theorem outfit_body : outfit context credentials { request with body := body }
    = { outfit context credentials request with body := body } := by
  unfold outfit
  cases context.writesHeaders <;> rfl

theorem writeHash_body : writeHash context hash { request with body := body }
    = { writeHash context hash request with body := body } := by
  unfold writeHash
  split <;> rfl

theorem complete_body (names : List String) (sig : String) :
    complete context credentials names sig { request with body := body }
      = { complete context credentials names sig request with body := body } := by
  unfold complete
  split <;> rfl

/-- A signature DOES NOT LOOK AT THE BODY, but for its hash. -/
theorem authorize_body : authorize context credentials hash { request with body := body }
    = { authorize context credentials hash request with body := body } := by
  unfold authorize
  rw [outfit_body, writeHash_body]
  exact complete_body context credentials _ body _ _

end Steps

/-! ## The equation -/

/-- **A signing without chunks:** what the hash of the payload makes of it, and the texts behind it. -/
theorem signIn_of_plain {context : Context} (hplain : context.usesChunks = false) (access : Access)
    (credentials : Credentials) (request : Request) :
    let hashed := PayloadHash.compute access context request.body
    (signIn access context credentials request).result = (hashed.result >>= fun hash =>
        if context.scope.isSpelled then
          .ok (.signed { authorize context credentials hash request with
            body := hashed.next.sent.frozen })
        else .error .notText)
      ∧ (signIn access context credentials request).next = hashed.next.given := by
  intro hashed
  have hbody : (outfit context credentials request).body = request.body := by
    unfold outfit
    split <;> rfl
  unfold signIn
  rw [lengthFor_plain hplain]
  simp only [Outcome.andThen, prepare_outfit, Outcome.result_after, Outcome.next_after]
  rw [hbody]
  cases hashed.result with
  | error e => exact ⟨rfl, rfl⟩
  | ok hash =>
    refine ⟨?_, rfl⟩
    have hsent : (({ outfit context credentials request with body := hashed.next.sent } :
        Request).freezeBytes) = outfit context credentials
          { request with body := hashed.next.sent.frozen } := by
      rw [Request.freezeBytes_eq, outfit_body context credentials request hashed.next.sent.frozen]
    show (finish context credentials none hash _).1.map Signed.signed
      = if context.scope.isSpelled then _ else _
    cases hspelled : context.scope.isSpelled with
    | false =>
      rw [finish_of_unspelled hspelled]
      rfl
    | true =>
      rw [finish_of_spelled hspelled, hsent, if_pos rfl]
      exact congrArg (fun r => Except.ok (Signed.signed r))
        (authorize_body context credentials hash _ _)

/-- A signing without chunks that succeeded HAS A HASH, and what it made of it. -/
theorem signIn_plain_ok {context : Context} (hplain : context.usesChunks = false) {access : Access}
    {credentials : Credentials} {request : Request} {done : Signed}
    (h : (signIn access context credentials request).result = .ok done) :
    ∃ hash, (PayloadHash.compute access context request.body).result = .ok hash
      ∧ .signed { authorize context credentials hash request with
        body := (PayloadHash.compute access context request.body).next.sent.frozen } = done := by
  rw [(signIn_of_plain hplain access credentials request).1] at h
  obtain ⟨hash, hhash, hdone⟩ := ok_of_bind_ok h
  split at hdone
  · exact ⟨hash, hhash, Except.ok.inj hdone⟩
  · cases hdone

/-- Where they are texts, A SIGNING WITHOUT CHUNKS is what the hash of the payload makes of it. -/
theorem signIn_of_spelled {context : Context} (hplain : context.usesChunks = false)
    (hspelled : context.scope.isSpelled = true) (access : Access) (credentials : Credentials)
    (request : Request) :
    (signIn access context credentials request).result
      = (PayloadHash.compute access context request.body).result.map fun hash =>
        .signed { authorize context credentials hash request with
          body := (PayloadHash.compute access context request.body).next.sent.frozen } := by
  rw [(signIn_of_plain hplain access credentials request).1, hspelled]
  cases (PayloadHash.compute access context request.body).result <;> rfl

end Signing

/-- For an identity in good standing, a signer that MAY SIGN in the context of the call signs in it. -/
theorem Signer.sign_of_plain {s : Signer} {now : Instant} {ps : Properties} {identity : Identity}
    {standing : Standing} (hidentity : identity.standing now = .ok (some standing))
    (hknown : standing.isAnonymous.isSet = false) (hvalid : standing.isExpired.isSet = false)
    {context : Context} (hcontext : Context.resolve s.config ps now = .ok context)
    (hplain : context.usesChunks = false) (request : Request) :
    s.sign now ps identity request
      = Signing.signIn s.access context standing.credentials request :=
  sign_of_accepted (by simp [hplain]) hidentity hknown hvalid hcontext request

/-! ## The signature, found again -/

namespace Signing

/-- The request whose canonical form is signed: of a signature in the header it shows nothing, one in the
query is taken away. -/
def unsigned (context : Context) (request : Request) : Request :=
  if context.writesHeaders then request
  else { request with destination := request.destination.withoutLastParam }

/-- **A request carries the signature of a canonical form,** in the header or behind all other parameters. -/
def Carries (context : Context) (credentials : Credentials) (canonical : CanonicalRequest)
    (request : Request) : Prop :=
  let sig := signature (context.scope.signingKey credentials.secretAccessKey)
    (stringToSign context canonical.text)
  if context.writesHeaders then
    request.fields.get? "Authorization" = some (authorizationField (credential context credentials)
      (canonical.fields.map Prod.fst) sig)
  else (Query.read request.destination.query).getLast? = some ("X-Amz-Signature", sig)

/-- **An authorized request carries the signature of its canonical form,** whatever its body is. -/
theorem authorize_carries (context : Context) (credentials : Credentials) (hash : String)
    (request : Request) (body : Body) :
    let signed : Request := { authorize context credentials hash request with body := body }
    Carries context credentials (canonicalRequest context hash (unsigned context signed)) signed := by
  intro signed
  let hashed := writeHash context hash (outfit context credentials request)
  unfold Carries unsigned
  cases hw : context.writesHeaders with
  | true =>
    have hsigned : signed = { hashed with
        fields := hashed.fields.set (authorizationField (credential context credentials)
          ((canonicalRequest context hash hashed).fields.map Prod.fst)
          (signature (context.scope.signingKey credentials.secretAccessKey)
            (stringToSign context (canonicalRequest context hash hashed).text)))
        body := body } := by
      simp only [signed, authorize, complete, hw, if_true]
      rfl
    simp only [if_true]
    rw [hsigned, canonicalRequest_authorized]
    exact Fields.get?_set_self _ _
  | false =>
    have hhashed : hashed = presign context credentials request := by
      simp only [hashed, writeHash, outfit, hw, Bool.false_and, Bool.false_eq_true, if_false]
    have hsigned : signed = { hashed with
        destination := hashed.destination.withParams [("X-Amz-Signature",
          signature (context.scope.signingKey credentials.secretAccessKey)
            (stringToSign context (canonicalRequest context hash hashed).text))]
        body := body } := by
      simp only [signed, authorize, complete, hw, Bool.false_eq_true, if_false]
      rfl
    have hunsigned : signed.destination.withoutLastParam = hashed.destination := by
      rw [hsigned, hhashed]
      exact Address.withoutLastParam_withParams _ _ _ _
    have hcanonical : canonicalRequest context hash
        { signed with destination := signed.destination.withoutLastParam }
          = canonicalRequest context hash hashed := by
      rw [hunsigned, hsigned]
      rfl
    simp only [Bool.false_eq_true, if_false]
    rw [hcanonical, hsigned]
    show (Query.read (some (Query.append hashed.destination.query _))).getLast? = _
    rw [Query.read_append, List.getLast?_concat]

/-- **A signing without chunks succeeds where the hash does,** if date, region and service are texts, and
carries the signature of the canonical form with this hash. -/
theorem signIn_carries {context : Context} (hplain : context.usesChunks = false)
    (hspelled : context.scope.isSpelled = true) {access : Access} (credentials : Credentials)
    {request : Request} {hash : String}
    (h : (PayloadHash.compute access context request.body).result = .ok hash) :
    ∃ signed : Request, (signIn access context credentials request).result = .ok (.signed signed)
      ∧ signed.body = (PayloadHash.compute access context request.body).next.sent.frozen
      ∧ Carries context credentials (canonicalRequest context hash (unsigned context signed)) signed := by
  have hresult := signIn_of_spelled hplain hspelled access credentials request
  rw [h] at hresult
  exact ⟨_, hresult, rfl, authorize_carries context credentials hash request _⟩

end Signing

/-! ## The last line -/

/-- The last line of a text. -/
def Text.lastLine (text : String) : String :=
  String.ofList ((split '\n' text.toList).getLast (split_ne_nil '\n' text.toList))

/-- What stands behind the last line feed is the last line. -/
theorem Text.lastLine_append (before : String) {last : String} (h : '\n' ∉ last.toList) :
    lastLine (before ++ "\n" ++ last) = last := by
  have hsplit : split '\n' (before ++ "\n" ++ last).toList
      = split '\n' before.toList ++ [last.toList] := by
    rw [String.toList_append, String.toList_append, List.append_assoc, ← split_of_not_mem h]
    exact split_append '\n' before.toList last.toList
  simp only [lastLine, hsplit, List.getLast_concat, String.ofList_toList]

/-- A digest in hexadecimal is ONE LINE. -/
theorem Sha256.not_mem_hexDigest (data : Bytes) : '\n' ∉ (hexDigest data).toList := by
  rw [hexDigest, String.toList_ofList]
  intro h
  obtain ⟨n, hn, hc⟩ := Hex.isDigit_of_mem_ofBytes h
  exact (by decide : ∀ n : Fin 16, '\n' ≠ Hex.digit n) ⟨n, hn⟩ hc

/-- **The last line of a canonical form is the hash of the payload.** -/
theorem CanonicalRequest.lastLine_text {r : CanonicalRequest} {data : Bytes}
    (h : r.payloadHash = Sha256.hexDigest data) : Text.lastLine r.text = Sha256.hexDigest data := by
  rw [text, h]
  exact Text.lastLine_append _ (Sha256.not_mem_hexDigest data)

end SigV4
