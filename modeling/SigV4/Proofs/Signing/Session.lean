/-
  SESSION TOKENS: the one that a signing writes, and those that the request had before.

  1. **In the header** — the token of the session takes the place of an old one, or the old one is erased; no
     later write has its name (`Steps.fieldTokens_header`).  Parameters of the query are left alone.
  2. **In the query** — the token of the session is put behind the old ones; fields are left alone
     (`Steps.tokens_query`).
  3. **Which are carried** — so a request carries no token but the session's exactly if it had none where
     the signing only adds or does not look (`Signer.sign_tokens`).

  The crux is that erasing belongs to the ONE place: a field of the header that is stale stays, and is signed, where
  the signature goes into the query.
-/
import SigV4.Proofs.Signing.Coverage

namespace SigV4

/-! ## What a request carries -/

namespace Request

/-- The values of the field for a session token, as often as it is there. -/
def fieldTokens (r : Request) : List (List String) :=
  (r.fields.toList.filter (·.key = "x-amz-security-token")).map Field.values

/-- The session tokens in the query. -/
def queryTokens (r : Request) : List String :=
  Query.valuesOf r.destination.query "X-Amz-Security-Token"

/-- **The session tokens that a request carries,** in its header and in its query. -/
def tokens (r : Request) : List (List String) := r.fieldTokens ++ r.queryTokens.map ([·])

/-- **A request carries this token only,** and none is signed where there is none. -/
def CarriesOnly (r : Request) (token : Option String) (names : List String) : Prop :=
  r.tokens = token.toList.map ([·]) ∧ (token = none → "x-amz-security-token" ∉ names)

end Request

namespace Signing

variable {access : Access} {context : Context} {credentials : Credentials}
  {request prepared signed : Request} {decoded : Option Int} {hash : String}

/-! ## In the header -/

/-- What is stamped has the token of the session AND NO OTHER. -/
theorem filter_stampFields (context : Context) (credentials : Credentials) (fields : Fields) :
    ((stampFields context credentials fields).toList.filter (·.key = "x-amz-security-token")).map
        Field.values
      = credentials.sessionToken.toList.map ([·]) := by
  unfold stampFields
  cases credentials.sessionToken with
  | some token =>
    have hset := Fields.filter_set_self (fields.set ⟨"X-Amz-Date", [context.timestamp]⟩)
      ⟨"X-Amz-Security-Token", [token]⟩
    have hkey : (Field.key ⟨"X-Amz-Security-Token", [token]⟩) = "x-amz-security-token" := by
      show Text.lower "X-Amz-Security-Token" = _
      decide
    rw [hkey] at hset
    exact congrArg (List.map Field.values) hset
  | none =>
    have hkey : Text.lower "X-Amz-Security-Token" = "x-amz-security-token" := by decide
    show ((Fields.erase _ _).toList.filter _).map _ = []
    rw [Fields.toList_erase, List.filter_filter, hkey]
    simp

/-- No later write has the name of the token. -/
theorem token_not_mem_later : "x-amz-security-token"
    ∉ (chunkNames context ++ hashNames context ++ ["Authorization"]).map Text.lower := by
  unfold chunkNames hashNames
  cases context.usesChunks <;> cases context.contentChecksum <;> decide

/-- **In the header mode** a request has the token of the session in its header, and no other there. -/
theorem Steps.fieldTokens_header
    (h : Steps access context credentials request decoded prepared hash signed)
    (hw : context.writesHeaders = true) :
    signed.fieldTokens = credentials.sessionToken.toList.map ([·]) := by
  have hother (g : Field)
      (hg : g.key ∈ (chunkNames context ++ hashNames context ++ ["Authorization"]).map Text.lower) :
      decide (g.key = "x-amz-security-token") = false := by
    apply decide_eq_false
    intro hkey
    exact token_not_mem_later (hkey ▸ hg)
  rw [Request.fieldTokens, (h.writes hw).filter hother]
  exact filter_stampFields context credentials request.fields

/-! ## In the query -/

/-- **In the query mode** a request has the token of the session behind those that it had, and its fields
are left alone. -/
theorem Steps.tokens_query
    (h : Steps access context credentials request decoded prepared hash signed)
    (hc : context.usesChunks = false) (hw : context.writesHeaders = false) :
    signed.fieldTokens = request.fieldTokens
      ∧ signed.queryTokens = request.queryTokens ++ credentials.sessionToken.toList := by
  obtain ⟨-, hfields, hvalues⟩ := h.valuesOf_presigned hc hw
  constructor
  · rw [Request.fieldTokens, hfields]
    rfl
  · rw [Request.queryTokens, hvalues, addedValues_token]
    rfl

/-! ## Which are carried -/

/-- A signed name is that of the token exactly if the field is there. -/
theorem mem_signedNames_token (r : Request) :
    "x-amz-security-token" ∈ signedNames r.fields r.destination ↔ r.fieldTokens ≠ [] := by
  have hexcluded : "x-amz-security-token" ∉ excludedKeys := by decide
  have hhost : "x-amz-security-token" ≠ "host" := by decide
  rw [mem_signedNames, or_iff_right hhost, and_iff_right hexcluded, Fields.mem_keys_iff,
    Request.fieldTokens, ne_eq, ne_eq, List.map_eq_nil_iff]

/-- Where there is no token, NONE IS SIGNED either. -/
theorem carriesOnly_iff {r : Request} {token : Option String} :
    r.CarriesOnly token (signedNames r.fields r.destination)
      ↔ r.tokens = token.toList.map ([·]) := by
  constructor
  · exact And.left
  · intro htokens
    refine ⟨htokens, ?_⟩
    rintro rfl
    have hfield : r.fieldTokens = [] := (List.append_eq_nil_iff.mp htokens).1
    rw [mem_signedNames_token]
    exact not_not_intro hfield

end Signing

/-- **THE SESSION TOKENS OF A SIGNED REQUEST.**  In the header mode its header has the session's and no other, and
its query those that were there.  In the query mode its header has those that were there, and its query has
the session's behind those that were there.  So it carries the session's and no other, and lists none if there
is none, exactly if the request had none in its query and, in the query mode, none in its header. -/
theorem Signer.sign_tokens {s : Signer} {now : Instant} {ps : Properties} {identity : Identity}
    {standing : Standing} {request signed : Request}
    (hidentity : identity.standing now = .ok (some standing))
    (hsign : (s.sign now ps identity request).result = .ok (.signed signed)) :
    ∃ (context : Context) (hash : String), Context.resolve s.config ps now = .ok context
      ∧ let canonical := Signing.canonicalRequest context hash (Signing.unsigned context signed)
        let names := canonical.fields.map Prod.fst
        let token := standing.credentials.sessionToken
        Signing.Carries context standing.credentials canonical signed
          ∧ (context.writesHeaders = true → signed.fieldTokens = token.toList.map ([·])
              ∧ signed.queryTokens = request.queryTokens)
          ∧ (context.writesHeaders = false → signed.fieldTokens = request.fieldTokens
              ∧ signed.queryTokens = request.queryTokens ++ token.toList)
          ∧ (signed.CarriesOnly token names ↔ request.queryTokens = []
              ∧ (context.writesHeaders = false → request.fieldTokens = [])) := by
  obtain ⟨context, decoded, prepared, hash, hcontext, hsteps⟩ := sign_ok hidentity hsign
  refine ⟨context, hash, hcontext, ?_⟩
  intro canonical names token
  have hnames : names = signedNames signed.fields signed.destination :=
    congrArg (List.map Prod.fst) (Signing.fields_unsigned context hash signed)
  rw [hnames, Signing.carriesOnly_iff, Request.tokens]
  cases hw : context.writesHeaders with
  | true =>
    have hfield := hsteps.fieldTokens_header hw
    have hquery : signed.queryTokens = request.queryTokens := by
      rw [Request.queryTokens, hsteps.destination_eq hw]
      rfl
    refine ⟨hsteps.carries_authorized hw, fun _ => ⟨hfield, hquery⟩, nofun, ?_⟩
    rw [hfield, hquery, List.append_right_eq_self, List.map_eq_nil_iff]
    constructor
    · intro hnone
      exact ⟨hnone, nofun⟩
    · exact And.left
  | false =>
    have hc := Context.plain_of_query hcontext hw
    obtain ⟨hfield, hquery⟩ := hsteps.tokens_query hc hw
    refine ⟨(hsteps.valuesOf_presigned hc hw).1, nofun, fun _ => ⟨hfield, hquery⟩, ?_⟩
    rw [hfield, hquery, List.map_append, ← List.append_assoc, List.append_left_eq_self,
      List.append_eq_nil_iff, List.map_eq_nil_iff]
    constructor
    · rintro ⟨hheader, hnone⟩
      exact ⟨hnone, fun _ => hheader⟩
    · rintro ⟨hnone, hheader⟩
      exact ⟨hheader rfl, hnone⟩

/-- In the header, a field with an old token is replaced, whatever its letter case. -/
theorem Signer.sign_tokens_replaced :
    let s : Signer := ⟨.sync, .plain⟩
    let ps : Properties := ⟨[("region", .text "us-east-1"), ("service", .text "iam"),
      ("date", .text "20150830T123600Z")]⟩
    let credentials : Credentials := ⟨"AKIDEXAMPLE", "wJalrXUtnFEMI", some "X123456SESSION"⟩
    let now : Instant := ⟨⟨2015, 8, 30⟩, 12, 36, 0, 0, some 0⟩
    let request : Request := ⟨⟨"https", "example.com", none, none, none, none⟩, "GET",
      .ofList [⟨"x-AMZ-security-token", ["stale", "older"]⟩], .absent⟩
    ∃ signed, ((Identity.keys credentials none).standing now
          = .ok (some ⟨credentials, none, .flag false, .flag false⟩)
        ∧ (s.sign now ps (.keys credentials none) request).result = .ok (.signed signed))
      ∧ request.tokens = [["stale", "older"]] ∧ signed.tokens = [["X123456SESSION"]] := by
  intro s ps credentials now request
  let context : Context := ⟨⟨"20150830", "us-east-1", "iam", "aws4_request", true, true⟩,
    "20150830T123600Z", .header, false, false, 65536, false, false, true, 3600⟩
  have hcontext : Context.resolve s.config ps now = .ok context := rfl
  have hhash : (PayloadHash.compute .sync context request.body).result
      = .ok PayloadHash.unsignedPayload := rfl
  obtain ⟨signed, hsigned⟩ := Signing.signIn_plain rfl rfl rfl credentials hhash
  have hsign : (s.sign now ps (.keys credentials none) request).result = .ok (.signed signed) := by
    rw [sign_of_standing rfl rfl rfl rfl hcontext]
    exact hsigned
  refine ⟨signed, ⟨rfl, hsign⟩, by decide +kernel, ?_⟩
  obtain ⟨context', hash, hcontext', -, -, -, honly⟩ := sign_tokens rfl hsign
  obtain rfl : context = context' := Except.ok.inj (hcontext.symm.trans hcontext')
  have hnone : request.queryTokens = [] := rfl
  exact (honly.mpr ⟨hnone, nofun⟩).1

/-- In the query, a field with an old token STAYS and is signed, though there is no session. -/
theorem Signer.sign_tokens_stale :
    let s : Signer := ⟨.sync, .plainQuery⟩
    let ps : Properties := ⟨[("region", .text "us-east-1"), ("service", .text "iam"),
      ("date", .text "20150830T123600Z")]⟩
    let credentials : Credentials := ⟨"AKIDEXAMPLE", "wJalrXUtnFEMI", none⟩
    let now : Instant := ⟨⟨2015, 8, 30⟩, 12, 36, 0, 0, some 0⟩
    let request : Request := ⟨⟨"https", "example.com", none, none, none, none⟩, "GET",
      .ofList [⟨"X-Amz-Security-Token", ["stale"]⟩], .absent⟩
    ∃ signed, (s.sign now ps (.keys credentials none) request).result = .ok (.signed signed)
      ∧ signed.tokens = [["stale"]]
      ∧ "x-amz-security-token" ∈ signedNames signed.fields signed.destination := by
  intro s ps credentials now request
  let context : Context := ⟨⟨"20150830", "us-east-1", "iam", "aws4_request", true, true⟩,
    "20150830T123600Z", .query, false, false, 65536, false, false, true, 3600⟩
  have hcontext : Context.resolve s.config ps now = .ok context := rfl
  obtain ⟨signed, hsigned⟩ := Signing.signIn_unsigned (rfl : context.writesHeaders = false) rfl rfl rfl
    .sync credentials request
  obtain ⟨decoded, prepared, hash, hsteps⟩ := Signing.signIn_ok hsigned
  obtain ⟨hfield, hquery⟩ := hsteps.tokens_query rfl rfl
  have hstale : request.fieldTokens = [["stale"]] := by decide +kernel
  have hnone : request.queryTokens = [] := rfl
  refine ⟨signed, ?_, ?_, ?_⟩
  · rw [sign_of_standing rfl rfl rfl rfl hcontext]
    exact hsigned
  · rw [Request.tokens, hfield, hquery, hstale, hnone]
    rfl
  · rw [Signing.mem_signedNames_token, hfield, hstale]
    decide

end SigV4
