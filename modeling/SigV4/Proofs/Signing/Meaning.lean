/-
  The signature depends on the MEANING of a request only.

  1. **Meaning** — two requests mean the same to a signer if their fields do, their queries have the same
     parameters, each as often, and all else is equal but the fragment (`Request.SameMeaning`).
  2. **Respelling** — fields in another order, names in another case, other excluded fields, pieces of the query
     in another order and another fragment leave the meaning as it is (`Respelled.sameMeaning`).
  3. **Every step** — what is written before the signature is written into both alike, so requests that mean the
     same still do (`prepare_sameMeaning`, `writeHash_sameMeaning`), and have one canonical form
     (`canonicalRequest_eq`).
  4. **The whole** — so both fail with one fault, or carry one signature and send one body (`Signer.sign_sameMeaning`).

  The crux is that each step looks at a request through its meaning ONLY: fields are looked up and never
  counted, and the query is read again behind whatever was put there.
-/
import SigV4.Proofs.Header.Meaning
import SigV4.Proofs.Payload.WireLength
import SigV4.Proofs.Signing.Plain
import SigV4.Proofs.Url.Canonical

namespace SigV4

/-! ## Meaning -/

/-- **Requests that mean the same to a signer.** -/
structure Request.SameMeaning (request other : Request) : Prop where
  method : other.method = request.method
  body : other.body = request.body
  place : other.destination = { request.destination with
    query := other.destination.query, fragment := other.destination.fragment }
  fields : request.fields.SameMeaning other.fields
  params : (Query.params request.destination.query).Perm (Query.params other.destination.query)

/-- **A request that is spelled in another way:** its fields in another order, their names in another case of
ASCII letters, beside other fields that are not signed; the pieces of its query in another order; and with
another fragment. -/
structure Request.Respelled (request other : Request) : Prop where
  method : other.method = request.method
  body : other.body = request.body
  place : other.destination = { request.destination with
    query := other.destination.query, fragment := other.destination.fragment }
  fields : other.fields.spellings.Perm request.fields.spellings
  pieces : (Query.pieces other.destination.query).Perm (Query.pieces request.destination.query)

/-- **Respelling leaves the meaning as it is.** -/
theorem Request.Respelled.sameMeaning {request other : Request} (h : request.Respelled other) :
    request.SameMeaning other where
  method := h.method
  body := h.body
  place := h.place
  fields := Fields.sameMeaning_of_spellings h.fields
  params := (Query.params_perm_of_pieces h.pieces).symm

/-- Two answers: the same fault, or results that belong together. -/
inductive SameAnswer {α : Type} (R : α → α → Prop) : Except Fault α → Except Fault α → Prop where
  | refused (fault : Fault) : SameAnswer R (.error fault) (.error fault)
  | done {a b : α} (h : R a b) : SameAnswer R (.ok a) (.ok b)

/-- Results that belong together are taken on IN THE SAME WAY. -/
theorem SameAnswer.map {α β : Type} {R : α → α → Prop} {S : β → β → Prop} {x y : Except Fault α}
    (h : SameAnswer R x y) {f g : α → β} (hfg : ∀ a b, R a b → S (f a) (g b)) :
    SameAnswer S (x.map f) (y.map g) := by
  cases h with
  | refused fault => exact .refused fault
  | done h => exact .done (hfg _ _ h)

/-- What two answers are that belong together. -/
theorem SameAnswer.eq_or_eq {α : Type} {R : α → α → Prop} {x y : Except Fault α}
    (h : SameAnswer R x y) :
    (∃ fault, x = .error fault ∧ y = .error fault) ∨ ∃ a b, x = .ok a ∧ y = .ok b ∧ R a b := by
  cases h with
  | refused fault => exact .inl ⟨fault, rfl, rfl⟩
  | done h => exact .inr ⟨_, _, rfl, rfl, h⟩

namespace Request.SameMeaning

variable {request other : Request}

/-- Both requests have ONE HOST. -/
theorem hostValue_eq (h : request.SameMeaning other) :
    hostValue request.destination = hostValue other.destination := by
  rw [h.place]
  rfl

theorem signedFields_eq (h : request.SameMeaning other) :
    signedFields request.fields request.destination = signedFields other.fields other.destination :=
  h.fields.signedFields_eq h.hostValue_eq

theorem withBody (h : request.SameMeaning other) (body : Body) :
    SameMeaning { request with body := body } { other with body := body } where
  method := h.method
  body := rfl
  place := h.place
  fields := h.fields
  params := h.params

theorem withFields (h : request.SameMeaning other) {fs gs : Fields} (hfields : fs.SameMeaning gs) :
    SameMeaning { request with fields := fs } { other with fields := gs } where
  method := h.method
  body := h.body
  place := h.place
  fields := hfields
  params := h.params

theorem withParams (h : request.SameMeaning other) (params : List (String × String)) :
    SameMeaning { request with destination := request.destination.withParams params }
      { other with destination := other.destination.withParams params } where
  method := h.method
  body := h.body
  place := by
    rw [h.place]
    rfl
  fields := h.fields
  params := by
    show (Query.params (some (Query.append _ params))).Perm
      (Query.params (some (Query.append _ params)))
    rw [Query.params_append, Query.params_append]
    exact h.params.append_right _

end Request.SameMeaning

namespace Signing

variable {context : Context} {credentials : Credentials} {request other : Request}

/-! ## Before the hash -/

theorem stampFields_sameMeaning {fs gs : Fields} (h : fs.SameMeaning gs) (context : Context)
    (credentials : Credentials) :
    (stampFields context credentials fs).SameMeaning (stampFields context credentials gs) := by
  unfold stampFields
  cases credentials.sessionToken with
  | some token => exact (h.set _).set _
  | none => exact (h.set _).erase _

/-- The encodings are those that were there, under whatever spelling. -/
theorem chunkedEncodings_eq {fs gs : Fields} (h : fs.SameMeaning gs) :
    chunkedEncodings fs = chunkedEncodings gs := by
  have hvalues (hs : Fields) : chunkedEncodings hs = chunkedEncoding
      :: ((hs.valuesOf? "Content-Encoding").getD []).filter (· ≠ chunkedEncoding) := by
    unfold chunkedEncodings Fields.valuesOf?
    cases hs.get? "Content-Encoding" <;> rfl
  rw [hvalues, hvalues, h "Content-Encoding" (by decide)]

/-- Chunks are announced in both, or in neither. -/
theorem announceChunks_sameMeaning {fs gs : Fields} (h : fs.SameMeaning gs) (chunkSize decoded : Int) :
    SameAnswer Fields.SameMeaning (announceChunks chunkSize decoded fs)
      (announceChunks chunkSize decoded gs) := by
  unfold announceChunks
  rw [chunkedEncodings_eq h]
  cases Frame.totalLength decoded chunkSize with
  | error fault => exact .refused fault
  | ok total =>
    simp only [bind, Except.bind]
    cases Text.showInt? total with
    | none => exact .refused _
    | some length => exact .done (((h.set _).set _).set _)

/-- The parameters of a signature list the same names. -/
theorem queryParams_eq_of_sameMeaning (h : request.SameMeaning other) :
    queryParams context credentials other = queryParams context credentials request := by
  unfold queryParams
  rw [h.signedFields_eq]

/-- **What is to be signed is written into both.** -/
theorem prepare_sameMeaning (h : request.SameMeaning other) (context : Context)
    (credentials : Credentials) (decoded : Option Int) :
    SameAnswer Request.SameMeaning (prepare context credentials decoded request)
      (prepare context credentials decoded other) := by
  cases hw : context.writesHeaders with
  | false =>
    rw [prepare_presign hw, prepare_presign hw, presign, presign, queryParams_eq_of_sameMeaning h]
    exact .done (h.withParams _)
  | true =>
    have hstamped := stampFields_sameMeaning h.fields context credentials
    unfold prepare
    rw [hw, if_neg (by decide), if_neg (by decide)]
    cases decoded with
    | none => exact .done (h.withFields hstamped)
    | some length =>
      refine (announceChunks_sameMeaning hstamped context.chunkSize length).map ?_
      intro fs gs hfields
      exact h.withFields hfields

theorem writeHash_sameMeaning (h : request.SameMeaning other) (context : Context) (hash : String) :
    (writeHash context hash request).SameMeaning (writeHash context hash other) := by
  unfold writeHash
  split
  · exact h.withFields (h.fields.set _)
  · exact h

/-- A declared length is read from the values only. -/
theorem declared_eq {f g : Field} (h : f.values = g.values) :
    DecodedLength.declared f = DecodedLength.declared g := by
  have hline : f.line Field.sentDelimiter = g.line Field.sentDelimiter := by
    unfold Field.line
    rw [h]
  unfold DecodedLength.declared
  rw [hline]

/-- The length is found IN BOTH, and costs the body the same. -/
theorem lengthFor_eq (h : request.SameMeaning other) (context : Context) :
    lengthFor context other = lengthFor context request := by
  have hvalues := h.fields "Content-Length" (by decide)
  unfold Fields.valuesOf? at hvalues
  have hfind : DecodedLength.find other.fields other.body
      = DecodedLength.find request.fields request.body := by
    unfold DecodedLength.find
    rw [h.body]
    cases hf : request.fields.get? "Content-Length" with
    | none =>
      rw [hf] at hvalues
      rw [Option.map_eq_none_iff.mp hvalues.symm]
    | some f =>
      rw [hf] at hvalues
      obtain ⟨g, hg, hsame⟩ := Option.map_eq_some_iff.mp hvalues.symm
      rw [hg]
      simp only [declared_eq hsame]
  unfold lengthFor
  rw [hfind, h.body]

/-! ## The signature -/

/-- **Requests that mean the same have ONE CANONICAL FORM.** -/
theorem canonicalRequest_eq (h : request.SameMeaning other) (context : Context) (hash : String) :
    canonicalRequest context hash other = canonicalRequest context hash request := by
  have hpath : other.destination.path = request.destination.path := by rw [h.place]
  have hquery := (Query.canonicalQuery_eq_iff_params _ _).mpr h.params
  unfold canonicalRequest
  rw [h.method, hpath, hquery, h.signedFields_eq]

/-- **Two requests with one signature,** that of one canonical form, and with one body. -/
def SameSignature (context : Context) (credentials : Credentials) (request other : Request) : Prop :=
  other.body = request.body ∧ ∃ canonical,
    Carries context credentials canonical request ∧ Carries context credentials canonical other

/-- A request is completed with the signature that it is to carry, whatever becomes of its body. -/
theorem complete_carries (context : Context) (credentials : Credentials)
    (canonical : CanonicalRequest) (request : Request) (body : Body) :
    let sig := signature (context.scope.signingKey credentials.secretAccessKey)
      (stringToSign context canonical.text)
    let names := canonical.fields.map Prod.fst
    Carries context credentials canonical
      { complete context credentials names sig request with body := body } := by
  intro sig names
  unfold Carries complete
  cases context.writesHeaders with
  | true => exact Fields.get?_set_self _ _
  | false =>
    show (Query.read (some (Query.append _ _))).getLast? = _
    rw [Query.read_append, List.getLast?_concat]

/-- Under the key, the last steps give both THE SAME SIGNATURE, and behind it the same chunks. -/
theorem conclude_sameMeaning (h : request.SameMeaning other) (context : Context)
    (credentials : Credentials) (decoded : Option Int) (hash : String) :
    let key := context.scope.signingKey credentials.secretAccessKey
    SameAnswer (SameSignature context credentials)
      (conclude context credentials decoded hash key request).1
      (conclude context credentials decoded hash key other).1 := by
  intro key
  let canonical := canonicalRequest context hash (writeHash context hash request)
  let sig := signature key (stringToSign context canonical.text)
  let completed (r : Request) : Request :=
    complete context credentials (canonical.fields.map Prod.fst) sig (writeHash context hash r)
  have hcarries (r : Request) (body : Body) :
      Carries context credentials canonical { completed r with body := body } :=
    complete_carries context credentials canonical (writeHash context hash r) body
  have hbody (r : Request) : (completed r).body = r.body := by
    show (complete context credentials _ sig (writeHash context hash r)).body = r.body
    rw [← body_writeHash context hash r]
    unfold complete
    split <;> rfl
  have hsame : (completed other).body = (completed request).body := by
    rw [hbody, hbody, h.body]
  have hother : (conclude context credentials decoded hash key other).1
      = frameBody context key sig decoded (completed other) := by
    have hcanonical : canonicalRequest context hash (writeHash context hash other) = canonical :=
      canonicalRequest_eq (writeHash_sameMeaning h context hash) context hash
    unfold conclude
    dsimp only
    rw [hcanonical]
  rw [hother]
  show SameAnswer _ (frameBody context key sig decoded (completed request)) _
  cases decoded with
  | none => exact .done ⟨hsame, canonical, hcarries request _, hcarries other _⟩
  | some length =>
    unfold frameBody
    dsimp only
    rw [hsame]
    cases (completed request).body.frame (chunkSigner context key sig) context.chunkSize length with
    | error fault => exact .refused fault
    | ok body => exact .done ⟨rfl, canonical, hcarries request body, hcarries other body⟩

/-- Where date, region or service is no text, both are refused for that. -/
theorem finish_sameMeaning (h : request.SameMeaning other) (context : Context)
    (credentials : Credentials) (decoded : Option Int) (hash : String) :
    SameAnswer (SameSignature context credentials)
      (finish context credentials decoded hash request).1
      (finish context credentials decoded hash other).1 := by
  cases hspelled : context.scope.isSpelled with
  | false =>
    rw [finish_of_unspelled hspelled, finish_of_unspelled hspelled]
    exact .refused .notText
  | true =>
    rw [finish_of_spelled hspelled, finish_of_spelled hspelled]
    exact conclude_sameMeaning h context credentials decoded hash

/-! ## The whole -/

/-- What two signings make of their requests, if both carry one signature. -/
def SignedAlike (context : Context) (credentials : Credentials) (first second : Signed) : Prop :=
  ∃ request other, first = .signed request ∧ second = .signed other
    ∧ SameSignature context credentials request other

/-- **In one context, requests that mean the same are signed alike.** -/
theorem signIn_sameMeaning (h : request.SameMeaning other) (access : Access) (context : Context)
    (credentials : Credentials) :
    SameAnswer (SignedAlike context credentials) (signIn access context credentials request).result
      (signIn access context credentials other).result := by
  unfold signIn Outcome.andThen
  rw [lengthFor_eq h]
  cases (lengthFor context request).result with
  | error fault => exact .refused fault
  | ok decoded =>
    simp only [Outcome.result_after]
    have hprepared := prepare_sameMeaning (h.withBody (lengthFor context request).next) context
      credentials decoded
    rcases hprepared.eq_or_eq with ⟨fault, hfirst, hsecond⟩ | ⟨prepared, prepared', hfirst, hsecond, hmeans⟩
    · rw [hfirst, hsecond]
      exact .refused fault
    · -- one body is hashed for both, with one result
      rw [hfirst, hsecond]
      dsimp only
      rw [hmeans.body]
      cases (PayloadHash.compute access context prepared.body).result with
      | error fault => exact .refused fault
      | ok hash =>
        have hfinished := finish_sameMeaning
          (hmeans.withBody (PayloadHash.compute access context prepared.body).next.sent.frozen)
          context credentials decoded hash
        dsimp only
        rw [Request.freezeBytes_eq, Request.freezeBytes_eq]
        exact hfinished.map fun a b hsame => ⟨a, b, rfl, rfl, hsame⟩

end Signing

/-- Properties with a date have THE SAME VERDICT at any moment at which the identity stands as it did. -/
theorem Signer.verdict_of_date {ps : Properties} (hdate : (ps.get? "date").isSome = true)
    {identity : Identity} {now later : Instant}
    (hstanding : identity.standing later = identity.standing now) (s : Signer) :
    s.verdict later ps identity = s.verdict now ps identity := by
  unfold verdict
  rw [hstanding, Context.resolve_of_date hdate s.config now later]

/-- **THE SIGNATURE DEPENDS ON THE MEANING OF A REQUEST ONLY.**  Of a request and one that is spelled in another
way, signed by the same properties with a date, both are refused with one fault, neither needs a signature, or
both carry the signature of ONE canonical form and are sent with one body.  So in the header they have one
field `Authorization`, in the query one last parameter, and in chunks one signature for each chunk. -/
theorem Signer.sign_sameMeaning {s : Signer} {now later : Instant} {ps : Properties}
    {identity : Identity} {request other : Request} (hdate : (ps.get? "date").isSome = true)
    (hstanding : identity.standing later = identity.standing now)
    (hrespelled : request.Respelled other) :
    let first := (s.sign now ps identity request).result
    let second := (s.sign later ps identity other).result
    (∃ fault, first = .error fault ∧ second = .error fault)
      ∨ (first = .ok .unchanged ∧ second = .ok .unchanged)
      ∨ ∃ (standing : Standing) (context : Context) (signed signed' : Request)
          (canonical : CanonicalRequest),
        identity.standing now = .ok (some standing) ∧ Context.resolve s.config ps now = .ok context
          ∧ first = .ok (.signed signed) ∧ second = .ok (.signed signed')
          ∧ Signing.Carries context standing.credentials canonical signed
          ∧ Signing.Carries context standing.credentials canonical signed'
          ∧ signed'.body = signed.body := by
  intro first second
  have hfirst : first = _ := congrArg Outcome.result (sign_eq s now ps identity request)
  have hsecond : second = _ := congrArg Outcome.result (sign_eq s later ps identity other)
  rw [verdict_of_date hdate hstanding] at hsecond
  cases hverdict : s.verdict now ps identity with
  | error fault =>
    rw [hverdict] at hfirst hsecond
    exact .inl ⟨fault, hfirst, hsecond⟩
  | ok signs =>
    cases signs with
    | none =>
      rw [hverdict] at hfirst hsecond
      exact .inr (.inl ⟨hfirst, hsecond⟩)
    | some found =>
      obtain ⟨credentials, context⟩ := found
      obtain ⟨standing, hidentity, -, -, hcontext, -, rfl⟩ := verdict_eq_some_iff.mp hverdict
      rw [hverdict] at hfirst hsecond
      have hsigned := Signing.signIn_sameMeaning hrespelled.sameMeaning s.access context
        standing.credentials
      rcases hsigned.eq_or_eq with ⟨fault, h, h'⟩ | ⟨a, b, h, h', signed, signed', rfl, rfl, hsame⟩
      · exact .inl ⟨fault, hfirst.trans h, hsecond.trans h'⟩
      · obtain ⟨hbody, canonical, hcarries, hcarries'⟩ := hsame
        exact .inr (.inr ⟨standing, context, signed, signed', canonical, hidentity, hcontext,
          hfirst.trans h, hsecond.trans h', hcarries, hcarries', hbody⟩)

/-- A request in chunks, and another spelling of it: fields and parameters the other way round, other letter
case, one more field that is not signed, and a fragment. -/
theorem Signer.sign_sameMeaning_chunked :
    let s : Signer := ⟨.sync, { Configuration.service with
      chunkedEncoding := .flag true, chunkSize := .whole 8 }⟩
    let ps : Properties := ⟨[("region", .text "us-east-1"), ("service", .text "s3"),
      ("date", .text "20130524T000000Z")]⟩
    let identity : Identity := .keys ⟨"AKIDEXAMPLE", "wJalrXUtnFEMI", none⟩ none
    let now : Instant := ⟨⟨2013, 5, 24⟩, 0, 0, 0, 0, some 0⟩
    let later : Instant := ⟨⟨2013, 5, 25⟩, 0, 0, 0, 0, some 0⟩
    let body : Body := .buffer ⟨.caller, [104, 101, 108, 108, 111], 1, false⟩
    let request : Request := ⟨⟨"https", "example.com", none, some "/a", some "b=2&a=1", none⟩, "PUT",
      .ofList [⟨"X-Custom", ["a", "b"]⟩, ⟨"Content-Type", ["text/plain"]⟩], body⟩
    let other : Request := ⟨⟨"https", "example.com", none, some "/a", some "a=1&b=2", some "top"⟩,
      "PUT", .ofList [⟨"content-TYPE", ["text/plain"]⟩, ⟨"User-Agent", ["agent"]⟩,
        ⟨"x-custom", ["a", "b"]⟩], body⟩
    ((ps.get? "date").isSome = true ∧ identity.standing later = identity.standing now
        ∧ request.Respelled other)
      ∧ ∃ signed signed' : Request, (s.sign now ps identity request).result = .ok (.signed signed)
        ∧ (s.sign later ps identity other).result = .ok (.signed signed')
        ∧ signed'.fields.get? "Authorization" = signed.fields.get? "Authorization"
        ∧ signed'.body = signed.body := by
  intro s ps identity now later body request other
  let context : Context := ⟨⟨"20130524", "us-east-1", "s3", "aws4_request", true, true⟩,
    "20130524T000000Z", .header, true, true, 8, false, true, true, 3600⟩
  have hcontext : Context.resolve s.config ps now = .ok context := rfl
  have hstanding : identity.standing now
      = .ok (some ⟨⟨"AKIDEXAMPLE", "wJalrXUtnFEMI", none⟩, none, .flag false, .flag false⟩) := rfl
  have hrespelled : request.Respelled other :=
    { method := rfl, body := rfl, place := rfl, fields := by decide +kernel, pieces := by decide }
  refine ⟨⟨rfl, rfl, hrespelled⟩, ?_⟩
  obtain ⟨first, hfirst⟩ : ∃ first, (s.sign now ps identity request).result = .ok (.signed first) := by
    rw [sign_of_standing rfl hstanding rfl rfl hcontext]
    have htotal : Frame.totalLength 4 8 = .ok 176 :=
      Framing.totalLength_of_lt (by decide) (by decide) (by decide)
    have hfound : (Signing.lengthFor context request).result = .ok (some 4) := rfl
    refine Signing.signIn_chunked rfl rfl rfl _ hfound htotal (Signing.isSome_showInt? (by decide)) ?_
    intro signer
    exact ⟨_, Body.frame_of_feed rfl rfl⟩
  have hdate : (ps.get? "date").isSome = true := rfl
  have hlater : identity.standing later = identity.standing now := rfl
  have halike := sign_sameMeaning (s := s) hdate hlater hrespelled
  rcases halike with ⟨fault, hrefused, -⟩ | ⟨hunchanged, -⟩ | hsigned
  · exact nomatch hfirst.symm.trans hrefused
  · exact nomatch hfirst.symm.trans hunchanged
  · obtain ⟨standing, context', signed, signed', canonical, -, hcontext', hsigned, hsigned', hcarries,
      hcarries', hbody⟩ := hsigned
    obtain rfl : context = context' := Except.ok.inj (hcontext.symm.trans hcontext')
    have hfield : signed.fields.get? "Authorization" = some _ := hcarries
    have hfield' : signed'.fields.get? "Authorization" = some _ := hcarries'
    exact ⟨signed, signed', hsigned, hsigned', hfield'.trans hfield.symm, hbody⟩

end SigV4
