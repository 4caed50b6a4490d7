/-
  SIGNING AGAIN: a request that was signed is signed at a later date.

  1. **The fields** — a signing sets one row of fields over what the request had, but for an old token
     (`writeHash_outfit`).  The next signing sets a row OF THE SAME NAMES (`authorize_again`).
  2. **The verdict** — another date changes the timestamp and the date of the scope; no flag looks at either
     (`Context.resolve_of_but_date`), so the later verdict signs in the same way (`Signer.verdict_later`).
  3. **Again** — the body that was sent is sent again (`PayloadHash.compute_settles`), and `sign_again` puts the
     three together.

  The crux is that the old signature is itself a field of the row: while the new
  canonical form is made it still stands there, and it is an excluded one.
-/
import SigV4.Proofs.Header.Again
import SigV4.Proofs.Signing.Agreement
import SigV4.Proofs.Signing.Coverage
import SigV4.Proofs.Signing.Settling

namespace SigV4

/-! ## The fields -/

namespace Signing

/-- The fields that a signing sets before it signs, where nothing is sent in chunks. -/
def writtenRow (context : Context) (credentials : Credentials) (hash : String) : List Field :=
  ⟨"X-Amz-Date", [context.timestamp]⟩
    :: (credentials.sessionToken.toList.map fun token => ⟨"X-Amz-Security-Token", [token]⟩)
    ++ if context.contentChecksum then [⟨"X-Amz-Content-SHA256", [hash]⟩] else []

/-- The fields without the token of another session, where this one has none. -/
def bare (credentials : Credentials) (fields : Fields) : Fields :=
  if credentials.sessionToken.isSome then fields else fields.erase "X-Amz-Security-Token"

variable {context other : Context} {credentials : Credentials}

theorem stampFields_eq (context : Context) (credentials : Credentials) (fields : Fields) :
    stampFields context credentials fields
      = (credentials.sessionToken.toList.map fun token => ⟨"X-Amz-Security-Token", [token]⟩).foldl
          Fields.set ((bare credentials fields).set ⟨"X-Amz-Date", [context.timestamp]⟩) := by
  unfold stampFields bare
  cases credentials.sessionToken with
  | some token => rfl
  | none =>
    have hkey : Field.key ⟨"X-Amz-Date", [context.timestamp]⟩
        ≠ Text.lower "X-Amz-Security-Token" := by
      show Text.lower "X-Amz-Date" ≠ _
      decide
    exact Fields.erase_set fields hkey

/-- **What is written before the signature:** one row of fields. -/
theorem writeHash_outfit (hw : context.writesHeaders = true) (hc : context.usesChunks = false)
    (hash : String) (request : Request) :
    writeHash context hash (outfit context credentials request) = { request with
      fields := (writtenRow context credentials hash).foldl Fields.set
        (bare credentials request.fields) } := by
  have houtfit : outfit context credentials request
      = { request with fields := stampFields context credentials request.fields } := if_pos hw
  rw [houtfit, stampFields_eq, writtenRow, List.foldl_append, List.foldl_cons]
  unfold writeHash
  rw [hw, hc, Bool.true_and, Bool.or_false]
  cases context.contentChecksum <;> rfl

/-- The names of the row are THOSE THAT ARE WRITTEN, whatever the date and the hash are. -/
theorem map_key_writtenRow (hc : context.usesChunks = false) (hash : String) :
    (writtenRow context credentials hash).map Field.key
      = (writtenNames context credentials).map Text.lower := by
  have hnames : (writtenRow context credentials hash).map Field.name
      = writtenNames context credentials := by
    unfold writtenRow writtenNames stampedNames chunkNames hashNames
    rw [hc]
    cases context.contentChecksum <;> cases credentials.sessionToken <;> rfl
  rw [← hnames, List.map_map]
  rfl

/-- All written names are different, and the signature's is another. -/
theorem nodup_writtenNames (context : Context) (credentials : Credentials) :
    ((writtenNames context credentials ++ ["Authorization"]).map Text.lower).Nodup := by
  unfold writtenNames stampedNames chunkNames hashNames
  cases credentials.sessionToken.isSome <;> cases context.usesChunks
    <;> cases context.contentChecksum <;> decide

/-- Where there is no session, NO TOKEN is written. -/
theorem token_not_mem_writtenNames (h : credentials.sessionToken.isSome = false) :
    Text.lower "X-Amz-Security-Token"
      ∉ (writtenNames context credentials ++ ["Authorization"]).map Text.lower := by
  unfold writtenNames stampedNames chunkNames hashNames
  rw [h]
  cases context.usesChunks <;> cases context.contentChecksum <;> decide

/-- What a signing left has no token of another session. -/
theorem bare_foldl (fields : Fields) {row : List Field}
    (hrow : row.map Field.key = (writtenNames context credentials ++ ["Authorization"]).map Text.lower) :
    bare credentials (row.foldl Fields.set (bare credentials fields))
      = row.foldl Fields.set (bare credentials fields) := by
  unfold bare
  cases h : credentials.sessionToken.isSome with
  | true => rfl
  | false =>
    apply Fields.erase_of_not_mem
    have hwrote : (fields.erase "X-Amz-Security-Token").Wrote (row.map Field.name)
        (row.foldl Fields.set (fields.erase "X-Amz-Security-Token")) := ⟨row, rfl, rfl⟩
    rw [if_neg Bool.false_ne_true, hwrote.mem_keys, List.map_map]
    rintro (herased | hwritten)
    · exact (Fields.mem_keys_erase.mp herased).1 rfl
    · exact token_not_mem_writtenNames h (hrow ▸ hwritten)

/-- The field with the signature of a canonical form. -/
def signatureField (context : Context) (credentials : Credentials) (canonical : CanonicalRequest) :
    Field :=
  authorizationField (credential context credentials) (canonical.fields.map Prod.fst)
    (signature (context.scope.signingKey credentials.secretAccessKey)
      (stringToSign context canonical.text))

/-- **An authorized request:** the row, and the signature behind it. -/
theorem authorize_eq (hw : context.writesHeaders = true) (hc : context.usesChunks = false)
    (hash : String) (request : Request) :
    let written := (writtenRow context credentials hash).foldl Fields.set
      (bare credentials request.fields)
    let canonical := canonicalRequest context hash { request with fields := written }
    authorize context credentials hash request
      = { request with fields := written.set (signatureField context credentials canonical) } := by
  intro written canonical
  unfold authorize
  rw [writeHash_outfit hw hc]
  exact if_pos hw

/-- The keys of a row with a signature behind it. -/
theorem map_key_signed (credentials : Credentials) (hc : context.usesChunks = false) (hash : String)
    (canonical : CanonicalRequest) :
    (writtenRow context credentials hash ++ [signatureField context credentials canonical]).map
        Field.key
      = (writtenNames context credentials ++ ["Authorization"]).map Text.lower := by
  rw [List.map_append, map_key_writtenRow hc, List.map_append]
  rfl

/-- With a new signature behind it, a new row leaves NO TRACE of the old one. -/
theorem foldl_writtenRow_again (hc : context.usesChunks = false) (hc' : other.usesChunks = false)
    (hchecksum : other.contentChecksum = context.contentChecksum) (base : Fields)
    (hash hash' : String) (old new : CanonicalRequest) :
    ((writtenRow other credentials hash').foldl Fields.set
        ((writtenRow context credentials hash ++ [signatureField context credentials old]).foldl
          Fields.set base)).set (signatureField other credentials new)
      = ((writtenRow other credentials hash').foldl Fields.set base).set
          (signatureField other credentials new) := by
  have hnames : writtenNames other credentials = writtenNames context credentials := by
    unfold writtenNames chunkNames hashNames
    rw [hc, hc', hchecksum]
  have hkeys := map_key_signed credentials hc hash old
  have hkeys' := map_key_signed credentials hc' hash' new
  rw [hnames] at hkeys'
  have hagain := Fields.foldl_set_again base (hkeys.trans hkeys'.symm)
    (hkeys ▸ nodup_writtenNames context credentials)
  have hconcat (row : List Field) (f : Field) (fs : Fields) :
      (row ++ [f]).foldl Fields.set fs = (row.foldl Fields.set fs).set f := List.foldl_concat ..
  rw [← hconcat, ← hconcat]
  exact hagain

/-- **A request that was signed is signed again** as it would have been at first. -/
theorem authorize_again (hw : context.writesHeaders = true) (hw' : other.writesHeaders = true)
    (hc : context.usesChunks = false) (hc' : other.usesChunks = false)
    (hchecksum : other.contentChecksum = context.contentChecksum) (hash : String)
    (request : Request) (body : Body) :
    authorize other credentials hash { authorize context credentials hash request with body := body }
      = { authorize other credentials hash request with body := body } := by
  let base := bare credentials request.fields
  obtain ⟨old, hfirst⟩ : ∃ old, authorize context credentials hash request = { request with
      fields := (writtenRow context credentials hash ++ [signatureField context credentials old]).foldl
        Fields.set base } := by
    rw [authorize_eq hw hc]
    refine ⟨canonicalRequest context hash { request with
      fields := (writtenRow context credentials hash).foldl Fields.set base }, ?_⟩
    rw [List.foldl_concat]
  let first := (writtenRow context credentials hash ++ [signatureField context credentials old]).foldl
    Fields.set base
  have hbare : bare credentials first = first :=
    bare_foldl request.fields (map_key_signed credentials hc hash old)
  let written := (writtenRow other credentials hash).foldl Fields.set first
  let direct := (writtenRow other credentials hash).foldl Fields.set base
  have hrow (new : CanonicalRequest) : written.set (signatureField other credentials new)
      = direct.set (signatureField other credentials new) :=
    foldl_writtenRow_again hc hc' hchecksum base hash hash old new
  -- the canonical form does not see a signature, so both requests are looked at behind one
  have hcanonical : canonicalRequest other hash { request with fields := written, body := body }
      = canonicalRequest other hash { request with fields := direct } := by
    calc canonicalRequest other hash { request with fields := written, body := body }
        = canonicalRequest other hash { request with
            fields := written.set (signatureField other credentials old), body := body } :=
          (canonicalRequest_authorized other hash _ _ _ { request with fields := written } body).symm
      _ = canonicalRequest other hash { request with
            fields := direct.set (signatureField other credentials old), body := body } := by
          rw [hrow]
      _ = canonicalRequest other hash { request with fields := direct } :=
          canonicalRequest_authorized other hash _ _ _ { request with fields := direct } body
  calc authorize other credentials hash { authorize context credentials hash request with body := body }
      = authorize other credentials hash { request with fields := first, body := body } := by
        rw [hfirst]
    _ = { request with
          fields := written.set (signatureField other credentials
            (canonicalRequest other hash { request with fields := written, body := body }))
          body := body } := by
        rw [authorize_eq hw' hc']
        dsimp only
        rw [hbare]
    _ = { request with
          fields := direct.set (signatureField other credentials
            (canonicalRequest other hash { request with fields := direct }))
          body := body } := by
        rw [hcanonical, hrow]
    _ = { authorize other credentials hash request with body := body } := by
        rw [authorize_eq hw' hc']

/-- In another context of the same flags, a request that was signed is signed AS THE GIVEN ONE IS, or neither
is. -/
theorem signIn_again (hw : context.writesHeaders = true) (hw' : other.writesHeaders = true)
    (hc : context.usesChunks = false) (hsigning : other.payloadSigning = context.payloadSigning)
    (hchunked : other.chunkedEncoding = context.chunkedEncoding)
    (hchecksum : other.contentChecksum = context.contentChecksum) {access : Access}
    {request : Request} (hbody : request.body.Repeatable) {done : Signed}
    (h : (signIn access context credentials request).result = .ok done) :
    ∃ first : Request, done = .signed first
      ∧ ((∃ fault, (signIn access other credentials request).result = .error fault
          ∧ (signIn access other credentials first).result = .error fault)
        ∨ ∃ direct again : Request,
          (signIn access other credentials request).result = .ok (.signed direct)
            ∧ (signIn access other credentials first).result = .ok (.signed again)
            ∧ again = { direct with body := again.body } ∧ again.body.ReadsLike direct.body) := by
  have hc' : other.usesChunks = false := by
    unfold Context.usesChunks at hc ⊢
    rw [hsigning, hchunked]
    exact hc
  have hcompute := PayloadHash.compute_congr hsigning hchunked access
  obtain ⟨hash, hhash, rfl⟩ := signIn_plain_ok hc h
  let sent := (PayloadHash.compute access context request.body).next.sent.frozen
  have hagain : (PayloadHash.compute access context sent).result = .ok hash :=
    PayloadHash.compute_again (fun _ => hbody) hhash fun _ => rfl
  let first : Request := { authorize context credentials hash request with body := sent }
  have hbodyOf : first.body = sent := rfl
  have hauthorize : authorize other credentials hash first
      = { authorize other credentials hash request with body := sent } :=
    authorize_again hw hw' hc hc' hchecksum hash request sent
  have hdirect := (signIn_of_plain hc' access credentials request).1
  have hsecond := (signIn_of_plain hc' access credentials first).1
  rw [hcompute, hhash] at hdirect
  rw [hbodyOf, hcompute, hagain] at hsecond
  refine ⟨first, rfl, ?_⟩
  cases hspelled : other.scope.isSpelled with
  | false =>
    rw [hspelled] at hdirect hsecond
    exact .inl ⟨.notText, hdirect, hsecond⟩
  | true =>
    rw [hspelled] at hdirect hsecond
    refine .inr ⟨{ authorize other credentials hash request with body := sent },
      { authorize other credentials hash request with
        body := (PayloadHash.compute access context sent).next.sent.frozen }, hdirect, ?_, rfl,
      PayloadHash.compute_settles hbody hhash⟩
    rw [hsecond]
    show Except.ok (Signed.signed { authorize other credentials hash first with body := _ }) = _
    rw [hauthorize]

end Signing

/-! ## The verdict -/

/-- Properties that differ IN THE DATE ONLY have the same flags. -/
theorem Context.resolve_of_but_date {config : Configuration} {ps ps' : Properties}
    {now later : Instant} {context other : Context}
    (hdate : ∀ name, name ≠ "date" → ps'.get? name = ps.get? name)
    (h : Context.resolve config ps now = .ok context)
    (h' : Context.resolve config ps' later = .ok other) :
    other.payloadSigning = context.payloadSigning ∧ other.chunkedEncoding = context.chunkedEncoding
      ∧ other.contentChecksum = context.contentChecksum := by
  have hflag {name : String} (hname : name ≠ "date") (otherwise : Setting) :
      flagOf ps' name otherwise = flagOf ps name otherwise := by
    rw [flagOf, hdate name hname]
    rfl
  have hresolved := resolve_ok h
  have hresolved' := resolve_ok h'
  refine ⟨?_, ?_, ?_⟩
  · rw [hresolved.payloadSigning, hresolved'.payloadSigning, hflag (by decide)]
  · rw [hresolved.chunkedEncoding, hresolved'.chunkedEncoding, hflag (by decide)]
  · rw [hresolved.contentChecksum, hresolved'.contentChecksum, hflag (by decide)]

/-- An identity has the SAME KEYS at any moment, or none. -/
theorem Identity.standing_later {identity : Identity} {now later : Instant}
    {standing standing' : Standing} (h : identity.standing now = .ok (some standing))
    (h' : identity.standing later = .ok (some standing')) :
    standing'.credentials = standing.credentials ∧ standing'.isAnonymous = standing.isAnonymous := by
  cases identity with
  | keys credentials expiration =>
    have hkeys (moment : Instant) (found : Standing)
        (hfound : (keys credentials expiration).standing moment = .ok (some found)) :
        found.credentials = credentials ∧ found.isAnonymous = .flag false := by
      simp only [Identity.standing] at hfound
      split at hfound
      · rw [← Option.some.inj (Except.ok.inj hfound)]
        exact ⟨rfl, rfl⟩
      · exact nomatch hfound
    obtain ⟨hcredentials, hanonymous⟩ := hkeys now standing h
    obtain ⟨hcredentials', hanonymous'⟩ := hkeys later standing' h'
    exact ⟨hcredentials'.trans hcredentials.symm, hanonymous'.trans hanonymous.symm⟩
  | anonymous =>
    obtain rfl := Option.some.inj (Except.ok.inj h)
    obtain rfl := Option.some.inj (Except.ok.inj h')
    exact ⟨rfl, rfl⟩
  | foreign o =>
    have hsame : (Identity.foreign o).standing later = (Identity.foreign o).standing now := rfl
    obtain rfl : standing = standing' :=
      Option.some.inj (Except.ok.inj (h.symm.trans (hsame ▸ h')))
    exact ⟨rfl, rfl⟩
  | other typeName => exact nomatch h

/-- **The verdict at a later date.**  Who was to sign then is to sign still, with the same keys; only the dates
of the context are others. -/
theorem Signer.verdict_later {s : Signer} {now later : Instant} {ps ps' : Properties}
    {identity : Identity} {credentials : Credentials} {context : Context}
    {signs : Option (Credentials × Context)}
    (hdate : ∀ name, name ≠ "date" → ps'.get? name = ps.get? name)
    (h : s.verdict now ps identity = .ok (some (credentials, context)))
    (h' : s.verdict later ps' identity = .ok signs) :
    ∃ other, signs = some (credentials, other) ∧ Context.resolve s.config ps' later = .ok other
      ∧ other.payloadSigning = context.payloadSigning
      ∧ other.chunkedEncoding = context.chunkedEncoding
      ∧ other.contentChecksum = context.contentChecksum := by
  obtain ⟨standing, hstanding, hknown, -, hcontext, -, hkeys⟩ := verdict_eq_some_iff.mp h
  cases signs with
  | none =>
    -- who needs no signature later needed none before
    obtain ⟨standing', hstanding', hanonymous⟩ := verdict_eq_none h'
    rw [(Identity.standing_later hstanding hstanding').2, hknown] at hanonymous
    exact nomatch hanonymous
  | some found =>
    obtain ⟨credentials', other⟩ := found
    obtain ⟨standing', hstanding', -, -, hcontext', -, hkeys'⟩ := verdict_eq_some_iff.mp h'
    obtain rfl : credentials = credentials' := by
      rw [← hkeys, ← hkeys', (Identity.standing_later hstanding hstanding').1]
    exact ⟨other, rfl, hcontext', Context.resolve_of_but_date hdate hcontext hcontext'⟩

/-! ## Again -/

/-- The request that is sent: the given one, where no signature is needed. -/
def Signed.sent (given : Request) : Signed → Request
  | .unchanged => given
  | .signed request => request

/-- **SIGNING AGAIN REPLACES THE OLD SIGNATURE.**  Where the signature is written into the header and nothing is
sent in chunks, a request that was signed is signed again as the given one is signed at first, at any later
date and moment: with the same fault, or with the same fields in the same order, the same address and method
and a body that yields the same.  So another signing by the same properties changes nothing more. -/
theorem Signer.sign_again {s : Signer} {now later : Instant} {ps ps' : Properties}
    {identity : Identity} {request : Request} {done : Signed}
    (hheader : s.config.signatureLocation = .header)
    (hdate : ∀ name, name ≠ "date" → ps'.get? name = ps.get? name)
    (hplain : ∀ context, Context.resolve s.config ps now = .ok context → context.usesChunks = false)
    (hbody : request.body.Repeatable) (hsign : (s.sign now ps identity request).result = .ok done) :
    let first := done.sent request
    let direct := (s.sign later ps' identity request).result
    let again := (s.sign later ps' identity first).result
    (∀ fault, direct = .error fault → again = .error fault)
      ∧ ∀ d, direct = .ok d → ∃ a, again = .ok a
        ∧ a.sent first = { d.sent request with body := (a.sent first).body }
        ∧ (a.sent first).body.ReadsLike (d.sent request).body := by
  intro first direct again
  cases hverdict : s.verdict now ps identity with
  | error fault =>
    rw [sign_eq, hverdict] at hsign
    exact nomatch hsign
  | ok signs =>
    cases signs with
    | none =>
      -- nothing was written, so both requests are the given one
      rw [sign_eq, hverdict] at hsign
      obtain rfl : Signed.unchanged = done := Except.ok.inj hsign
      exact ⟨fun _ h => h, fun d h => ⟨d, h, rfl, .refl _⟩⟩
    | some found =>
      obtain ⟨credentials, context⟩ := found
      obtain ⟨-, -, -, -, hcontext, -, -⟩ := verdict_eq_some_iff.mp hverdict
      rw [sign_eq, hverdict] at hsign
      cases hverdict' : s.verdict later ps' identity with
      | error fault =>
        have hrefused (r : Request) : (s.sign later ps' identity r).result = .error fault := by
          rw [sign_eq, hverdict']
          rfl
        refine ⟨fun e he => ?_, fun d hd => ?_⟩
        · exact (hrefused first).trans ((hrefused request).symm.trans he)
        · exact nomatch (hrefused request).symm.trans hd
      | ok signs' =>
        obtain ⟨other, rfl, hcontext', hsigning, hchunked, hchecksum⟩ :=
          verdict_later hdate hverdict hverdict'
        have hheaders {ps : Properties} {moment : Instant} {c : Context}
            (hc : Context.resolve s.config ps moment = .ok c) : c.writesHeaders = true := by
          rw [Context.writesHeaders, Context.resolve_location hc, hheader]
          rfl
        have hsigns (r : Request) : (s.sign later ps' identity r).result
            = (Signing.signIn s.access other credentials r).result := by
          rw [sign_eq, hverdict']
        obtain ⟨r, rfl, ⟨fault, hdirect, hagain⟩ | ⟨d, a, hdirect, hagain, hbut, hreads⟩⟩ :=
          Signing.signIn_again (hheaders hcontext) (hheaders hcontext') (hplain context hcontext)
            hsigning hchunked hchecksum hbody hsign
        · have hd : direct = .error fault := (hsigns request).trans hdirect
          refine ⟨fun e he => ?_, fun d' hd' => ?_⟩
          · exact (hsigns r).trans (hagain.trans (hd.symm.trans he))
          · cases hd.symm.trans hd'
        · have hd : direct = .ok (.signed d) := (hsigns request).trans hdirect
          have ha : again = .ok (.signed a) := (hsigns r).trans hagain
          refine ⟨fun fault hfault => ?_, fun d' hd' => ?_⟩
          · cases hd.symm.trans hfault
          · obtain rfl : Signed.signed d = d' := Except.ok.inj (hd.symm.trans hd')
            exact ⟨.signed a, ha, hbut, hreads⟩

/-- A stream that can be sought and is not at its start, fields with an old date and an old signature between
which another stands, and the next day. -/
theorem Signer.sign_again_next_day :
    let s : Signer := ⟨.sync, .service⟩
    let propertiesOf (date : String) : Properties := ⟨[("date", .text date),
      ("region", .text "us-east-1"), ("service", .text "iam"),
      ("content_checksum_enabled", .flag true)]⟩
    let ps := propertiesOf "20150830T123600Z"
    let ps' := propertiesOf "20150831T123600Z"
    let identity : Identity := .keys ⟨"AKIDEXAMPLE", "wJalrXUtnFEMI", some "X123456SESSION"⟩ none
    let now : Instant := ⟨⟨2015, 8, 30⟩, 12, 36, 0, 0, some 0⟩
    let request : Request := ⟨⟨"https", "example.com", none, none, none, none⟩, "PUT",
      .ofList [⟨"authorization", ["old"]⟩, ⟨"X-Custom", ["value"]⟩, ⟨"x-amz-date", ["old"]⟩],
      .stream ⟨.sync, some .sync, none, [10, 20, 30, 40, 50], 1, fun _ => some 2, fun _ => false,
        [], []⟩⟩
    ∃ first direct again : Request,
      (s.config.signatureLocation = .header
        ∧ (∀ name, name ≠ "date" → ps'.get? name = ps.get? name)
        ∧ (∀ context, Context.resolve s.config ps now = .ok context → context.usesChunks = false)
        ∧ request.body.Repeatable ∧ (s.sign now ps identity request).result = .ok (.signed first))
      ∧ (s.sign now ps' identity request).result = .ok (.signed direct)
      ∧ (s.sign now ps' identity first).result = .ok (.signed again)
      ∧ again = { direct with body := again.body } ∧ again.body.Yields [20, 30, 40, 50] := by
  intro s propertiesOf ps ps' identity now request
  let contextOf (day date : String) : Context := ⟨⟨day, "us-east-1", "iam", "aws4_request", true, true⟩,
    date, .header, true, false, 65536, true, true, true, 3600⟩
  have hcontext : Context.resolve s.config ps now
      = .ok (contextOf "20150830" "20150830T123600Z") := rfl
  have hcontext' : Context.resolve s.config ps' now
      = .ok (contextOf "20150831" "20150831T123600Z") := rfl
  have hplain (context : Context) (h : Context.resolve s.config ps now = .ok context) :
      context.usesChunks = false := by
    obtain rfl := Except.ok.inj (hcontext.symm.trans h)
    rfl
  have hdate (name : String) (hname : name ≠ "date") : ps'.get? name = ps.get? name := by
    have hother : (name == "date") = false := beq_false_of_ne hname
    show List.lookup name _ = List.lookup name _
    simp [ps, ps', propertiesOf, List.lookup_cons, hother]
  have hreliable : request.body.Reliable .sync := ⟨rfl, nofun, fun _ => nofun, fun _ => rfl⟩
  have hbody : request.body.Repeatable := ⟨nofun, fun _ => ⟨fun _ => rfl, fun _ _ h => h⟩⟩
  have hstanding : identity.standing now = .ok (some ⟨⟨"AKIDEXAMPLE", "wJalrXUtnFEMI",
      some "X123456SESSION"⟩, none, .flag false, .flag false⟩) := rfl
  have hsigns (day date : String) : ∃ signed : Request,
      (Signing.signIn .sync (contextOf day date) ⟨"AKIDEXAMPLE", "wJalrXUtnFEMI",
        some "X123456SESSION"⟩ request).result = .ok (.signed signed)
        ∧ signed.body.Yields [20, 30, 40, 50] := by
    obtain ⟨hhash, hyields⟩ :=
      PayloadHash.compute_yields (rfl : (contextOf day date).usesChunks = false)
        (fun _ => .inl hreliable) hreliable.yields
    obtain ⟨signed, hsigned, hsent, -⟩ := Signing.signIn_carries rfl rfl _ hhash
    exact ⟨signed, hsigned, hsent ▸ hyields⟩
  obtain ⟨first, hfirst, -⟩ := hsigns "20150830" "20150830T123600Z"
  obtain ⟨direct, hdirect, hyields⟩ := hsigns "20150831" "20150831T123600Z"
  rw [← sign_of_plain hstanding rfl rfl hcontext rfl] at hfirst
  rw [← sign_of_plain hstanding rfl rfl hcontext' rfl] at hdirect
  obtain ⟨done, hdone, hbut, hreads⟩ :=
    (sign_again rfl hdate hplain hbody hfirst).2 (.signed direct) hdirect
  obtain ⟨again, rfl⟩ : ∃ again, done = .signed again := by
    rw [sign_of_plain hstanding rfl rfl hcontext' rfl] at hdone
    obtain ⟨hash, -, rfl⟩ := Signing.signIn_plain_ok rfl hdone
    exact ⟨_, rfl⟩
  exact ⟨first, direct, again, ⟨rfl, hdate, hplain, hbody, hfirst⟩, hdirect, hdone, hbut,
    hreads.yields hyields⟩

end SigV4
