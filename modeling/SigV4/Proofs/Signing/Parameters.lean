/-
  The PARAMETERS of a presigned address, name by name.

  1. **What is written** — six parameters with the values of this signing, and the session token, if there is
     one (`signatureParams`).
  2. **Name by name** — the values that are written under a name stand BEHIND those that the query had under
     it, and nothing else changes (`Steps.valuesOf_presigned`).
  3. **Once** — so a parameter of the six is there once, with the value of this signing, exactly if the query
     had none of its name (`Signer.presigned_params`).

  The crux is that a query is only ever added to: where the header has one place for a name, and a new value takes
  the old one's, the query of an address that is presigned AGAIN has every parameter twice.
-/
import SigV4.Proofs.Signing.Plain

namespace SigV4

/-! ## What is written -/

/-- In the query mode NOTHING IS SENT IN CHUNKS. -/
theorem Context.plain_of_query {config : Configuration} {ps : Properties} {now : Instant}
    {context : Context} (h : resolve config ps now = .ok context)
    (hw : context.writesHeaders = false) : context.usesChunks = false := by
  rw [← Bool.not_eq_true]
  intro hc
  rw [resolve_chunks h hc] at hw
  exact nomatch hw

namespace Signing

/-- **The parameters of a signature,** with the values of the signing of a canonical form. -/
def signatureParams (context : Context) (credentials : Credentials) (canonical : CanonicalRequest) :
    List (String × String) :=
  [("X-Amz-Algorithm", "AWS4-HMAC-SHA256"),
    ("X-Amz-Credential", credentials.accessKeyId ++ "/" ++ context.scope.text),
    ("X-Amz-Date", context.timestamp), ("X-Amz-Expires", toString context.expires),
    ("X-Amz-SignedHeaders", canonical.signedHeaders),
    ("X-Amz-Signature", signature (context.scope.signingKey credentials.secretAccessKey)
      (stringToSign context canonical.text))]

/-- The values that a signing adds to those of a name. -/
def addedValues (context : Context) (credentials : Credentials) (canonical : CanonicalRequest)
    (name : String) : List String :=
  ((signatureParams context credentials canonical).filter (·.1 = name)).map Prod.snd
    ++ if name = "X-Amz-Security-Token" then credentials.sessionToken.toList else []

variable {context : Context} {credentials : Credentials} {canonical : CanonicalRequest}

/-- Each parameter of a signature is added ONCE. -/
theorem addedValues_of_mem {p : String × String}
    (h : p ∈ signatureParams context credentials canonical) :
    addedValues context credentials canonical p.1 = [p.2] := by
  unfold addedValues
  simp only [signatureParams, List.mem_cons, List.not_mem_nil, or_false] at h ⊢
  rcases h with rfl | rfl | rfl | rfl | rfl | rfl <;> simp

/-- Under other names nothing is added but the session token. -/
theorem addedValues_of_not_mem {name : String}
    (h : name ∉ (signatureParams context credentials canonical).map Prod.fst) :
    addedValues context credentials canonical name
      = if name = "X-Amz-Security-Token" then credentials.sessionToken.toList else [] := by
  have hnone : (signatureParams context credentials canonical).filter (·.1 = name) = [] := by
    rw [List.filter_eq_nil_iff]
    intro p hp hname
    exact h (of_decide_eq_true hname ▸ List.mem_map_of_mem hp)
  rw [addedValues, hnone]
  rfl

/-- The token is added under A NAME OF ITS OWN. -/
theorem addedValues_token : addedValues context credentials canonical "X-Amz-Security-Token"
    = credentials.sessionToken.toList := by
  have hnone : "X-Amz-Security-Token"
      ∉ (signatureParams context credentials canonical).map Prod.fst := by
    simp [signatureParams]
  rw [addedValues_of_not_mem hnone, if_pos rfl]

/-- What is written before the canonical form and behind it are the parameters of the signature, and the token
between them. -/
theorem values_written (hash : String) (request : Request) (name : String) :
    let canonical := canonicalRequest context hash (presign context credentials request)
    let sig := signature (context.scope.signingKey credentials.secretAccessKey)
      (stringToSign context canonical.text)
    ((queryParams context credentials request).filter (·.1 = name)).map Prod.snd
        ++ ([("X-Amz-Signature", sig)].filter (·.1 = name)).map Prod.snd
      = addedValues context credentials canonical name := by
  intro canonical sig
  rw [queryParams_eq context credentials hash, List.filter_append, List.map_append]
  by_cases htoken : name = "X-Amz-Security-Token"
  · subst htoken
    rw [addedValues_token]
    cases credentials.sessionToken with
    | none => rfl
    | some token => rfl
  · have hother : (credentials.sessionToken.toList.map fun token =>
        ("X-Amz-Security-Token", token)).filter (·.1 = name) = [] := by
      rw [List.filter_eq_nil_iff]
      intro p hp hname
      obtain ⟨token, -, rfl⟩ := List.mem_map.mp hp
      exact htoken (of_decide_eq_true hname).symm
    rw [hother, addedValues, if_neg htoken, List.map_nil, List.append_nil, List.append_nil,
      ← List.map_append, ← List.filter_append]
    rfl

/-! ## Name by name -/

/-- The signed fields of a request are those of the form that is signed: it has the same host. -/
theorem fields_unsigned (context : Context) (hash : String) (request : Request) :
    (canonicalRequest context hash (unsigned context request)).fields
      = signedFields request.fields request.destination := by
  unfold unsigned
  split
  · rfl
  · rfl

section Presigned

variable {access : Access} {request prepared signed : Request} {decoded : Option Int} {hash : String}

/-- Without its signature, a presigned request is the one THAT WAS SIGNED, but for its body. -/
theorem Steps.unsigned_eq
    (h : Steps access context credentials request decoded prepared hash signed)
    (hc : context.usesChunks = false) (hw : context.writesHeaders = false) :
    unsigned context signed = { presign context credentials request with body := signed.body } := by
  obtain ⟨hsigned, -⟩ := h.presigned hc hw
  have hdestination : signed.destination.withoutLastParam
      = (presign context credentials request).destination := by
    rw [hsigned]
    exact Address.withoutLastParam_withParams _ _ _ _
  rw [unsigned, hw, if_neg Bool.false_ne_true, hdestination, hsigned]

/-- **A PRESIGNED REQUEST:** it carries the signature of its canonical form, has the fields of the request, and
under every name its query has the added values behind its own. -/
theorem Steps.valuesOf_presigned
    (h : Steps access context credentials request decoded prepared hash signed)
    (hc : context.usesChunks = false) (hw : context.writesHeaders = false) :
    let canonical := canonicalRequest context hash (unsigned context signed)
    Carries context credentials canonical signed ∧ signed.fields = request.fields
      ∧ ∀ name, Query.valuesOf signed.destination.query name
        = Query.valuesOf request.destination.query name
          ++ addedValues context credentials canonical name := by
  intro canonical
  obtain ⟨hsigned, -⟩ := h.presigned hc hw
  let presigned := presign context credentials request
  let sig := signature (context.scope.signingKey credentials.secretAccessKey)
    (stringToSign context (canonicalRequest context hash presigned).text)
  have hcanonical : canonical = canonicalRequest context hash presigned := by
    show canonicalRequest context hash (unsigned context signed) = _
    rw [h.unsigned_eq hc hw]
    rfl
  have hquery : signed.destination.query
      = some (Query.append presigned.destination.query [("X-Amz-Signature", sig)]) := by
    rw [hsigned]
    rfl
  have hpresigned : presigned.destination.query
      = some (Query.append request.destination.query (queryParams context credentials request)) := rfl
  rw [hcanonical]
  refine ⟨?_, ?_, fun name => ?_⟩
  · rw [Carries, hw, if_neg Bool.false_ne_true, hquery, Query.read_append, List.getLast?_concat]
  · rw [hsigned]
    rfl
  · rw [hquery, Query.valuesOf_append, hpresigned, Query.valuesOf_append, List.append_assoc]
    exact congrArg _ (values_written hash request name)

end Presigned

end Signing

/-! ## Once -/

/-- **THE PARAMETERS OF A PRESIGNED REQUEST.**  Its query has the parameters of its signature behind those of
the same names that the request had; so each of them is there once, with the value of this signing, exactly
if the request had none of their names.  Under any other name it has the values that the request had, and
the session token behind those of its name. -/
theorem Signer.presigned_params {s : Signer} {now : Instant} {ps : Properties} {identity : Identity}
    {standing : Standing} {request signed : Request}
    (hquery : s.config.signatureLocation = .query)
    (hidentity : identity.standing now = .ok (some standing))
    (hsign : (s.sign now ps identity request).result = .ok (.signed signed)) :
    ∃ (context : Context) (hash : String), Context.resolve s.config ps now = .ok context
      ∧ (PayloadHash.compute s.access context request.body).result = .ok hash
      ∧ let canonical := Signing.canonicalRequest context hash (Signing.unsigned context signed)
        let own := Signing.signatureParams context standing.credentials canonical
        let before := Query.valuesOf request.destination.query
        let after := Query.valuesOf signed.destination.query
        (∀ p ∈ own, after p.1 = before p.1 ++ [p.2])
          ∧ ((∀ p ∈ own, after p.1 = [p.2]) ↔ ∀ p ∈ own, before p.1 = [])
          ∧ ∀ name, name ∉ own.map Prod.fst → after name = before name
            ++ if name = "X-Amz-Security-Token" then standing.credentials.sessionToken.toList else [] := by
  obtain ⟨context, decoded, prepared, hash, hcontext, hsteps⟩ := sign_ok hidentity hsign
  have hw : context.writesHeaders = false := by
    rw [Context.writesHeaders, Context.resolve_location hcontext, hquery]
    rfl
  have hc := Context.plain_of_query hcontext hw
  obtain ⟨-, hhash⟩ := hsteps.presigned hc hw
  obtain ⟨-, -, hvalues⟩ := hsteps.valuesOf_presigned hc hw
  refine ⟨context, hash, hcontext, hhash, ?_⟩
  intro canonical own before after
  have hown : ∀ p ∈ own, after p.1 = before p.1 ++ [p.2] := by
    intro p hp
    rw [← Signing.addedValues_of_mem hp]
    exact hvalues p.1
  refine ⟨hown, ?_, ?_⟩
  · constructor
    · intro honce p hp
      have hboth := (hown p hp).symm.trans (honce p hp)
      exact List.append_left_eq_self.mp hboth
    · intro hnone p hp
      rw [hown p hp, hnone p hp]
      rfl
  · intro name hname
    rw [← Signing.addedValues_of_not_mem hname]
    exact hvalues name

/-- In the query mode, a payload that is not signed LEAVES NOTHING TO FAIL but the texts. -/
theorem Signing.signIn_unsigned {context : Context} (hw : context.writesHeaders = false)
    (hc : context.usesChunks = false) (hspelled : context.scope.isSpelled = true)
    (hpayload : context.payloadSigning = false) (access : Access) (credentials : Credentials)
    (request : Request) :
    ∃ signed, (signIn access context credentials request).result = .ok (.signed signed) := by
  have hprepare := prepare_presign hw credentials none request
  have hhash : (PayloadHash.compute access context (presign context credentials request).body).result
      = .ok PayloadHash.unsignedPayload := by
    unfold PayloadHash.compute PayloadHash.placeholder?
    rw [hpayload]
    rfl
  exact signIn_prepared hc hspelled hprepare hhash

/-- A query with a parameter that occurs twice, and a session. -/
theorem Signer.presigned_params_action :
    let s : Signer := ⟨.sync, .plainQuery⟩
    let ps : Properties := ⟨[("region", .text "us-east-1"), ("service", .text "iam"),
      ("date", .text "20150830T123600Z")]⟩
    let credentials : Credentials := ⟨"AKIDEXAMPLE", "wJalrXUtnFEMI", some "X123456SESSION"⟩
    let now : Instant := ⟨⟨2015, 8, 30⟩, 12, 36, 0, 0, some 0⟩
    let request : Request := ⟨⟨"https", "example.com", none, none, some "Action=a&b&Action=c", none⟩,
      "GET", .empty, .absent⟩
    ∃ signed, (s.config.signatureLocation = .query
        ∧ (Identity.keys credentials none).standing now
          = .ok (some ⟨credentials, none, .flag false, .flag false⟩)
        ∧ (s.sign now ps (.keys credentials none) request).result = .ok (.signed signed))
      ∧ Query.valuesOf signed.destination.query "X-Amz-Date" = ["20150830T123600Z"]
      ∧ Query.valuesOf signed.destination.query "Action" = ["a", "c"]
      ∧ Query.valuesOf signed.destination.query "X-Amz-Security-Token" = ["X123456SESSION"] := by
  intro s ps credentials now request
  let context : Context := ⟨⟨"20150830", "us-east-1", "iam", "aws4_request", true, true⟩,
    "20150830T123600Z", .query, false, false, 65536, false, false, true, 3600⟩
  have hcontext : Context.resolve s.config ps now = .ok context := rfl
  obtain ⟨signed, hsigned⟩ := Signing.signIn_unsigned (rfl : context.writesHeaders = false) rfl rfl
    rfl .sync credentials request
  have hsign : (s.sign now ps (.keys credentials none) request).result = .ok (.signed signed) := by
    rw [sign_of_standing rfl rfl rfl rfl hcontext]
    exact hsigned
  refine ⟨signed, ⟨rfl, rfl, hsign⟩, ?_⟩
  obtain ⟨context', hash, hcontext', -, hown, -, hother⟩ := presigned_params rfl rfl hsign
  obtain rfl : context = context' := Except.ok.inj (hcontext.symm.trans hcontext')
  have haction : Query.valuesOf request.destination.query "Action" = ["a", "c"] := by decide +kernel
  have hdate : Query.valuesOf request.destination.query "X-Amz-Date" = [] := by decide +kernel
  have htoken : Query.valuesOf request.destination.query "X-Amz-Security-Token" = [] := by
    decide +kernel
  refine ⟨?_, ?_, ?_⟩
  · rw [hown ("X-Amz-Date", context.timestamp) (by simp [Signing.signatureParams]), hdate]
    rfl
  · rw [hother "Action" (by simp [Signing.signatureParams]), haction, if_neg (by decide)]
    rfl
  · rw [hother "X-Amz-Security-Token" (by simp [Signing.signatureParams]), htoken, if_pos rfl]
    rfl

/-- A date that the query has already STAYS, and the date of the signing is put behind it. -/
theorem Signer.presigned_params_not_replaced :
    let s : Signer := ⟨.sync, .plainQuery⟩
    let ps : Properties := ⟨[("region", .text "us-east-1"), ("service", .text "iam"),
      ("date", .text "20150830T123600Z")]⟩
    let credentials : Credentials := ⟨"AKIDEXAMPLE", "wJalrXUtnFEMI", none⟩
    let now : Instant := ⟨⟨2015, 8, 30⟩, 12, 36, 0, 0, some 0⟩
    let request : Request := ⟨⟨"https", "example.com", none, none,
      some "X-Amz-Date=19700101T000000Z", none⟩, "GET", .empty, .absent⟩
    ∃ signed, (s.sign now ps (.keys credentials none) request).result = .ok (.signed signed)
      ∧ Query.valuesOf signed.destination.query "X-Amz-Date"
        = ["19700101T000000Z", "20150830T123600Z"] := by
  intro s ps credentials now request
  let context : Context := ⟨⟨"20150830", "us-east-1", "iam", "aws4_request", true, true⟩,
    "20150830T123600Z", .query, false, false, 65536, false, false, true, 3600⟩
  have hcontext : Context.resolve s.config ps now = .ok context := rfl
  obtain ⟨signed, hsigned⟩ := Signing.signIn_unsigned (rfl : context.writesHeaders = false) rfl rfl
    rfl .sync credentials request
  refine ⟨signed, ?_, ?_⟩
  · rw [sign_of_standing rfl rfl rfl rfl hcontext]
    exact hsigned
  · obtain ⟨decoded, prepared, hash, hsteps⟩ := Signing.signIn_ok hsigned
    obtain ⟨-, -, hvalues⟩ := hsteps.valuesOf_presigned rfl rfl
    have hmem : ("X-Amz-Date", "20150830T123600Z") ∈ Signing.signatureParams context credentials
        (Signing.canonicalRequest context hash (Signing.unsigned context signed)) := by
      simp [Signing.signatureParams, context]
    have hbefore : Query.valuesOf request.destination.query "X-Amz-Date" = ["19700101T000000Z"] := by
      decide +kernel
    rw [hvalues, Signing.addedValues_of_mem hmem, hbefore]
    rfl

end SigV4
