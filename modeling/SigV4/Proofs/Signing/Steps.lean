/-
  THE STEPS of a signing that succeeded.

  1. **The context** — a date that is given makes the context independent of the moment
     (`resolve_of_date`), and every setting has one source (`resolve_ok`).
  2. **The verdict** — what a signer decides before it looks at the request.  `sign_eq` is the only lemma that
     opens `sign`, and `verdict_eq_some_iff` says when a request is signed at all.
  3. **Inversion** — `sign_ok` takes a successful signing apart: an identity in good standing, a
     context, and the four results that `Signing.Steps` lists.
  4. **What the steps change** — in the header mode they write fields only (`prepare_keeps`,
     `finish_writes`); the body changes where it was read or is sent in chunks.
  5. **What is recomputed** — canonical form, text and key come from the context alone, once it resolves.
-/
import SigV4.Signing.Sign

namespace SigV4

/-- What succeeds in two steps SUCCEEDS AT BOTH. -/
theorem ok_of_bind_ok {α β : Type} {first : Except Fault α} {second : α → Except Fault β} {b : β}
    (h : first >>= second = .ok b) : ∃ a, first = .ok a ∧ second a = .ok b := by
  cases first with
  | error e => cases h
  | ok a => exact ⟨a, rfl, h⟩

theorem ok_of_map_ok {α β : Type} {first : Except Fault α} {f : α → β} {b : β}
    (h : first.map f = .ok b) : ∃ a, first = .ok a ∧ f a = b := by
  cases first with
  | error e => cases h
  | ok a => exact ⟨a, rfl, Except.ok.inj h⟩

theorem error_of_map_error {α β : Type} {first : Except Fault α} {f : α → β} {e : Fault}
    (h : first.map f = .error e) : first = .error e := by
  cases first with
  | error fault => exact congrArg Except.error (Except.error.inj h)
  | ok a => exact nomatch h

/-! ## The context -/

namespace Context

/-- Properties with a date mean THE SAME AT ANY MOMENT. -/
theorem resolve_of_date {ps : Properties} (h : (ps.get? "date").isSome = true)
    (config : Configuration) (now later : Instant) :
    resolve config ps later = resolve config ps now := by
  have ht : stampOf ps later = stampOf ps now := by
    obtain ⟨value, hv⟩ := Option.isSome_iff_exists.mp h
    unfold stampOf timestampOf
    rw [hv]
  unfold resolve
  rw [ht]

/-- **What a context is resolved to:** every setting is that of its property, or else the configuration's. -/
structure Resolved (config : Configuration) (ps : Properties) (now : Instant) (context : Context) :
    Prop where
  names : ∃ region service, required ps "region" = .ok region ∧ required ps "service" = .ok service
    ∧ context.scope.region = region.display ∧ context.scope.service = service.display
    ∧ context.scope.namesAreTexts = (region.isText && service.isText)
  chunkSize : chunkSizeOf ((ps.get? "chunk_size").getD config.chunkSize) = .ok context.chunkSize
  expires : expiresOf ((ps.get? "expires").getD config.expires) = .ok context.expires
  stamp : ∃ stamp, stampOf ps now = .ok stamp ∧ context.timestamp = stamp.timestamp.display
    ∧ context.scope.date = stamp.day.display ∧ context.scope.dateIsText = stamp.day.isText
  location : context.signatureLocation = config.signatureLocation
  payloadSigning : context.payloadSigning = flagOf ps "payload_signing_enabled" config.payloadSigning
  chunkedEncoding :
    context.chunkedEncoding = flagOf ps "chunked_encoding_enabled" config.chunkedEncoding
  contentChecksum :
    context.contentChecksum = flagOf ps "content_checksum_enabled" config.contentChecksum
  encodePathTwice : context.encodePathTwice = flagOf ps "uri_encode_path" config.encodePathTwice
  normalizePath : context.normalizePath = flagOf ps "normalize_path" config.normalizePath
  /-- Chunks are announced in the header only. -/
  placed : context.usesChunks = true → context.writesHeaders = true

theorem resolve_ok {config : Configuration} {ps : Properties} {now : Instant} {context : Context}
    (h : resolve config ps now = .ok context) : Resolved config ps now context := by
  unfold resolve at h
  obtain ⟨region, hregion, h⟩ := ok_of_bind_ok h
  obtain ⟨service, hservice, h⟩ := ok_of_bind_ok h
  obtain ⟨chunkSize, hchunkSize, h⟩ := ok_of_bind_ok h
  obtain ⟨expires, hexpires, h⟩ := ok_of_bind_ok h
  obtain ⟨stamp, hstamp, h⟩ := ok_of_bind_ok h
  dsimp only at h
  split at h
  · exact nomatch h
  · rename_i hplaced
    obtain rfl := Except.ok.inj h
    exact ⟨⟨region, service, hregion, hservice, rfl, rfl, rfl⟩, hchunkSize, hexpires,
      ⟨stamp, hstamp, rfl, rfl, rfl⟩, rfl, rfl, rfl, rfl, rfl, rfl, by simpa using hplaced⟩

theorem resolve_location {config : Configuration} {ps : Properties} {now : Instant}
    {context : Context} (h : resolve config ps now = .ok context) :
    context.signatureLocation = config.signatureLocation :=
  (resolve_ok h).location

end Context

/-! ## The verdict -/

namespace Signer

/-- **What a signer decides before it looks at the request:** `none` where no signature is needed, else with
which keys it signs, and in which context. -/
def verdict (s : Signer) (now : Instant) (ps : Properties) (identity : Identity) :
    Except Fault (Option (Credentials × Context)) :=
  match identity.standing now with
  | .error e => .error e
  | .ok none => .error (.notAnIdentity identity.typeName)
  | .ok (some standing) =>
    if standing.isAnonymous.isSet then .ok none
    else if standing.isExpired.isSet then
      .error (.expired (Identity.describeExpiration Instant.display standing.expiration))
    else match Context.resolve s.config ps now with
      | .error e => .error e
      | .ok context =>
        if s.access = .async ∧ context.usesChunks then .error .chunkedByAsyncSigner
        else .ok (some (standing.credentials, context))

/-- A signing is the verdict, and the signing in the context that was found. -/
theorem sign_eq (s : Signer) (now : Instant) (ps : Properties) (identity : Identity)
    (request : Request) :
    s.sign now ps identity request = match s.verdict now ps identity with
      | .error e => refuse e request
      | .ok none => ⟨.ok .unchanged, request.body, [.anonymousSkipped]⟩
      | .ok (some (credentials, context)) =>
        Signing.signIn s.access context credentials request := by
  unfold sign verdict
  cases identity.standing now with
  | error e => rfl
  | ok standing? =>
    cases standing? with
    | none => rfl
    | some standing =>
      dsimp only
      unfold signAs
      cases standing.isAnonymous.isSet with
      | true => rfl
      | false =>
        cases standing.isExpired.isSet with
        | true => rfl
        | false =>
          simp only [Bool.false_eq_true, if_false]
          cases Context.resolve s.config ps now with
          | error e => rfl
          | ok context =>
            dsimp only
            split <;> rfl

/-- **When a request is signed:** for an identity in good standing, in the context of the call, if the signer
has the chunks that the context asks for. -/
theorem verdict_eq_some_iff {s : Signer} {now : Instant} {ps : Properties} {identity : Identity}
    {credentials : Credentials} {context : Context} :
    s.verdict now ps identity = .ok (some (credentials, context))
      ↔ ∃ standing, identity.standing now = .ok (some standing)
        ∧ standing.isAnonymous.isSet = false ∧ standing.isExpired.isSet = false
        ∧ Context.resolve s.config ps now = .ok context
        ∧ ¬(s.access = .async ∧ context.usesChunks = true)
        ∧ standing.credentials = credentials := by
  constructor
  · intro h
    unfold verdict at h
    split at h
    · exact nomatch h
    · exact nomatch h
    · rename_i standing hstanding
      split at h
      · exact nomatch h
      · rename_i hknown
        split at h
        · exact nomatch h
        · rename_i hvalid
          split at h
          · exact nomatch h
          · rename_i found hcontext
            split at h
            · exact nomatch h
            · rename_i haccess
              obtain ⟨hcredentials, rfl⟩ := Prod.mk.inj (Option.some.inj (Except.ok.inj h))
              exact ⟨standing, hstanding, Bool.eq_false_iff.mpr hknown, Bool.eq_false_iff.mpr hvalid,
                hcontext, haccess, hcredentials⟩
  · rintro ⟨standing, hstanding, hknown, hvalid, hcontext, haccess, rfl⟩
    unfold verdict
    rw [hstanding]
    dsimp only
    rw [hknown, hvalid, if_neg Bool.false_ne_true, if_neg Bool.false_ne_true, hcontext]
    exact if_neg haccess

/-- **When a request needs no signature:** for an identity that is known to be none. -/
theorem verdict_eq_none {s : Signer} {now : Instant} {ps : Properties} {identity : Identity}
    (h : s.verdict now ps identity = .ok none) :
    ∃ standing, identity.standing now = .ok (some standing) ∧ standing.isAnonymous.isSet = true := by
  unfold verdict at h
  split at h
  · exact nomatch h
  · exact nomatch h
  · rename_i standing hstanding
    split at h
    · rename_i hanonymous
      exact ⟨standing, hstanding, hanonymous⟩
    · split at h
      · exact nomatch h
      · split at h
        · exact nomatch h
        · split at h
          · exact nomatch h
          · exact nomatch Except.ok.inj h

/-- **A signing that succeeded is the signing in its context.** -/
theorem sign_eq_signIn {s : Signer} {now : Instant} {ps : Properties} {identity : Identity}
    {standing : Standing} {request signed : Request}
    (hidentity : identity.standing now = .ok (some standing))
    (h : (s.sign now ps identity request).result = .ok (.signed signed)) :
    ∃ context, Context.resolve s.config ps now = .ok context
      ∧ s.sign now ps identity request
        = Signing.signIn s.access context standing.credentials request := by
  have heq := sign_eq s now ps identity request
  cases hv : s.verdict now ps identity with
  | error e =>
    rw [heq, hv] at h
    exact nomatch h
  | ok signs =>
    cases signs with
    | none =>
      rw [heq, hv] at h
      exact nomatch h
    | some found =>
      obtain ⟨standing', hstanding, -, -, hcontext, -, hcredentials⟩ := verdict_eq_some_iff.mp hv
      obtain rfl : standing = standing' :=
        Option.some.inj (Except.ok.inj (hidentity.symm.trans hstanding))
      rw [hv] at heq
      exact ⟨found.2, hcontext, hcredentials ▸ heq⟩

/-- For an identity in good standing, a signer SIGNS IN THE CONTEXT of the call, if it has the chunks that
the context asks for. -/
theorem sign_of_accepted {s : Signer} {context : Context}
    (haccess : ¬(s.access = .async ∧ context.usesChunks = true)) {now : Instant} {ps : Properties}
    {identity : Identity} {standing : Standing}
    (hidentity : identity.standing now = .ok (some standing))
    (hknown : standing.isAnonymous.isSet = false) (hvalid : standing.isExpired.isSet = false)
    (hcontext : Context.resolve s.config ps now = .ok context) (request : Request) :
    s.sign now ps identity request
      = Signing.signIn s.access context standing.credentials request := by
  have hverdict : s.verdict now ps identity = .ok (some (standing.credentials, context)) :=
    verdict_eq_some_iff.mpr ⟨standing, hidentity, hknown, hvalid, hcontext, haccess, rfl⟩
  rw [sign_eq, hverdict]

end Signer

/-! ## Inversion -/

namespace Signing

/-- **The results on the way to a signed request.** -/
structure Steps (access : Access) (context : Context) (credentials : Credentials)
    (request : Request) (decoded : Option Int) (prepared : Request) (hash : String)
    (signed : Request) : Prop where
  measured : (lengthFor context request).result = .ok decoded
  written : prepare context credentials decoded
    { request with body := (lengthFor context request).next } = .ok prepared
  hashed : (PayloadHash.compute access context prepared.body).result = .ok hash
  finished : (finish context credentials decoded hash
    ({ prepared with body := (PayloadHash.compute access context prepared.body).next.sent } :
      Request).freezeBytes).1 = .ok signed

theorem signIn_ok {access : Access} {context : Context} {credentials : Credentials}
    {request signed : Request}
    (h : (signIn access context credentials request).result = .ok (.signed signed)) :
    ∃ decoded prepared hash,
      Steps access context credentials request decoded prepared hash signed := by
  unfold signIn Outcome.andThen at h
  cases hl : (lengthFor context request).result with
  | error e =>
    rw [hl] at h
    exact nomatch h
  | ok decoded =>
    rw [hl] at h
    simp only [Outcome.result_after] at h
    split at h
    · exact nomatch h
    · rename_i prepared hp
      split at h
      · exact nomatch h
      · rename_i hash hc
        obtain ⟨request', hf, hs⟩ := ok_of_map_ok h
        rw [Signed.signed.inj hs] at hf
        exact ⟨decoded, prepared, hash, hl, hp, hc, hf⟩

end Signing

/-- **A signing that succeeded,** taken apart. -/
theorem Signer.sign_ok {s : Signer} {now : Instant} {ps : Properties} {identity : Identity}
    {standing : Standing} {request signed : Request}
    (hidentity : identity.standing now = .ok (some standing))
    (h : (s.sign now ps identity request).result = .ok (.signed signed)) :
    ∃ context decoded prepared hash, Context.resolve s.config ps now = .ok context
      ∧ Signing.Steps s.access context standing.credentials request decoded prepared hash
          signed := by
  obtain ⟨context, hcontext, heq⟩ := sign_eq_signIn hidentity h
  rw [heq] at h
  obtain ⟨decoded, prepared, hash, hsteps⟩ := Signing.signIn_ok h
  exact ⟨context, decoded, prepared, hash, hcontext, hsteps⟩

/-! ## What the steps change -/

namespace Signing

/-- Without chunks the body is not asked for its length. -/
theorem lengthFor_plain {context : Context} (h : context.usesChunks = false) (request : Request) :
    lengthFor context request = ⟨.ok none, request.body, []⟩ := by
  rw [lengthFor, if_neg (by simp [h])]

/-- Where date, region and service are texts, the last steps are those UNDER THE KEY of the scope. -/
theorem finish_of_spelled {context : Context} (h : context.scope.isSpelled = true)
    (credentials : Credentials) (decoded : Option Int) (hash : String) (request : Request) :
    finish context credentials decoded hash request
      = conclude context credentials decoded hash
          (context.scope.signingKey credentials.secretAccessKey) request := by
  have hdate : context.scope.dateIsText = true := (Bool.and_eq_true _ _ ▸ h).1
  unfold finish Scope.key?
  rw [hdate, Bool.not_true, Bool.and_false, if_neg Bool.false_ne_true, if_pos h]

/-- What had to be a text and is none KEEPS A REQUEST from being signed. -/
theorem finish_of_unspelled {context : Context} (h : context.scope.isSpelled = false)
    (credentials : Credentials) (decoded : Option Int) (hash : String) (request : Request) :
    (finish context credentials decoded hash request).1 = .error .notText := by
  unfold finish Scope.key?
  split
  · rfl
  · rw [h]
    rfl

theorem spelled_of_finish {context : Context} {credentials : Credentials} {decoded : Option Int}
    {hash : String} {request signed : Request}
    (h : (finish context credentials decoded hash request).1 = .ok signed) :
    context.scope.isSpelled = true := by
  cases hspelled : context.scope.isSpelled with
  | true => rfl
  | false =>
    rw [finish_of_unspelled hspelled] at h
    exact nomatch h

/-- Without chunks, signing fails ONLY WHERE the preparation or the hash fails, if date, region and service
are texts. -/
theorem signIn_prepared {access : Access} {context : Context} (hc : context.usesChunks = false)
    (hspelled : context.scope.isSpelled = true) {credentials : Credentials} {request prepared : Request} {hash : String}
    (hprepare : prepare context credentials none request = .ok prepared)
    (hhash : (PayloadHash.compute access context prepared.body).result = .ok hash) :
    ∃ signed, (signIn access context credentials request).result = .ok (.signed signed) := by
  rw [signIn, lengthFor_plain hc]
  simp only [Outcome.andThen, hprepare, hhash, Outcome.result_after, finish_of_spelled hspelled]
  exact ⟨_, rfl⟩

/-- A signature in the header without chunks fails only where the hash fails. -/
theorem signIn_plain {access : Access} {context : Context} (hc : context.usesChunks = false)
    (hspelled : context.scope.isSpelled = true) (hw : context.writesHeaders = true) (credentials : Credentials) {request : Request}
    {hash : String}
    (hhash : (PayloadHash.compute access context request.body).result = .ok hash) :
    ∃ signed, (signIn access context credentials request).result = .ok (.signed signed) := by
  have hprepare : prepare context credentials none request
      = .ok { request with fields := stampFields context credentials request.fields } :=
    if_neg (by simp [hw])
  exact signIn_prepared hc hspelled hprepare hhash

/-- In the header mode the preparation WRITES FIELDS ONLY. -/
theorem prepare_keeps {context : Context} (hw : context.writesHeaders = true)
    {credentials : Credentials} {decoded : Option Int} {request prepared : Request}
    (h : prepare context credentials decoded request = .ok prepared) :
    prepared = { request with fields := prepared.fields } := by
  unfold prepare at h
  rw [if_neg (by simp [hw])] at h
  cases decoded with
  | none => rw [← Except.ok.inj h]
  | some length =>
    obtain ⟨fields, -, rfl⟩ := ok_of_map_ok h
    rfl

theorem body_writeHash (context : Context) (hash : String) (request : Request) :
    (writeHash context hash request).body = request.body := by
  unfold writeHash
  split <;> rfl

/-- In the header mode the last steps write the signature into a field that is not signed itself, and
replace the body only by its chunks. -/
theorem finish_writes {context : Context} (hw : context.writesHeaders = true)
    {credentials : Credentials} {decoded : Option Int} {hash : String} {request signed : Request}
    (h : (finish context credentials decoded hash request).1 = .ok signed) :
    let hashed := writeHash context hash request
    let canonical := canonicalRequest context hash hashed
    let key := context.scope.signingKey credentials.secretAccessKey
    let field := authorizationField (credential context credentials)
      (canonical.fields.map Prod.fst) (signature key (stringToSign context canonical.text))
    signed = { hashed with fields := hashed.fields.set field, body := signed.body }
      ∧ (decoded = none → signed.body = request.body) := by
  intro hashed canonical key field
  have hfinish : frameBody context key (signature key (stringToSign context canonical.text)) decoded
      { hashed with fields := hashed.fields.set field } = .ok signed := by
    rw [← h, finish_of_spelled (spelled_of_finish h)]
    show _ = frameBody context key _ decoded (complete _ _ _ _ hashed)
    rw [complete, if_pos hw]
  cases decoded with
  | none =>
    rw [← Except.ok.inj hfinish]
    exact ⟨rfl, fun _ => body_writeHash context hash request⟩
  | some length =>
    obtain ⟨body, -, hs⟩ := ok_of_map_ok hfinish
    rw [← hs]
    exact ⟨rfl, nofun⟩

/-- What was signed had TEXTS for its key. -/
theorem Steps.spelled {access : Access} {context : Context} {credentials : Credentials}
    {request prepared signed : Request} {decoded : Option Int} {hash : String}
    (h : Steps access context credentials request decoded prepared hash signed) :
    context.scope.isSpelled = true :=
  spelled_of_finish h.finished

end Signing

theorem Signer.spelled_of_sign {s : Signer} {now : Instant} {ps : Properties} {identity : Identity}
    {standing : Standing} {context : Context} {request signed : Request}
    (hidentity : identity.standing now = .ok (some standing))
    (hcontext : Context.resolve s.config ps now = .ok context)
    (hsign : (s.sign now ps identity request).result = .ok (.signed signed)) :
    context.scope.isSpelled = true := by
  obtain ⟨found, _, _, _, hfound, hsteps⟩ := sign_ok hidentity hsign
  obtain rfl : context = found := Except.ok.inj (hcontext.symm.trans hfound)
  exact hsteps.spelled

/-! ## What is recomputed -/

section Recomputed

variable {s : Signer} {now : Instant} {ps : Properties} {context : Context}

theorem Signer.canonicalText_of_context (h : Context.resolve s.config ps now = .ok context)
    {request : Request} {hash : String}
    (hhash : (PayloadHash.compute s.access context request.body).result = .ok hash) :
    (s.canonicalText now ps request).result
      = .ok (Signing.canonicalRequest context hash request).text := by
  unfold canonicalText Outcome.andThen
  simp only [h, hhash, Outcome.result_after]

/-- Where the hash fails, there is no canonical form either. -/
theorem Signer.canonicalText_of_error (h : Context.resolve s.config ps now = .ok context)
    {request : Request} {e : Fault}
    (hhash : (PayloadHash.compute s.access context request.body).result = .error e) :
    (s.canonicalText now ps request).result = .error e
      ∧ (s.canonicalText now ps request).next
        = (PayloadHash.compute s.access context request.body).next := by
  unfold canonicalText Outcome.andThen
  rw [h]
  dsimp only
  rw [hhash]
  exact ⟨rfl, rfl⟩

theorem Signer.stringToSign_of_context (hdate : (ps.get? "date").isSome = true)
    (h : Context.resolve s.config ps now = .ok context) (canonical : String) :
    s.stringToSign now ps canonical = .ok (Signing.stringToSign context canonical) := by
  have hgiven : ¬(ps.get? "date").isNone = true := by
    rw [Option.isNone_iff_eq_none]
    exact Option.isSome_iff_ne_none.mp hdate
  unfold Signer.stringToSign
  rw [if_neg hgiven, h]
  rfl

theorem Signer.signingKey_of_context (h : Context.resolve s.config ps now = .ok context)
    (hspelled : context.scope.isSpelled = true) (secret : String) :
    s.signingKey now ps secret = .ok (context.scope.signingKey secret) := by
  unfold Signer.signingKey
  rw [h]
  exact if_pos hspelled

end Recomputed

end SigV4
