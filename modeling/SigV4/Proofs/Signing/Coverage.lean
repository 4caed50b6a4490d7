/-
  The list of SIGNED HEADERS covers the signed request.

  1. **The list** — a signed request names the fields of the canonical form that was signed, in the field of its
     signature or in a parameter of its query (`Steps.valuesOf_presigned`); and that form has the fields that
     the request has IN THE END (`fields_unsigned`).
  2. **What it covers** — so nothing in the header is left out but the excluded names (`signedNames_protect`), and
     what the signer wrote itself is covered like the rest (`Steps.mem_signedNames`).

  The crux is that the list is made before the last field is written; but that field is an excluded one.
-/
import SigV4.Proofs.Header.Names
import SigV4.Proofs.Signing.Parameters
import SigV4.Proofs.Signing.Writes

namespace SigV4

namespace Signing

variable {access : Access} {context : Context} {credentials : Credentials}

/-- The names of the fields that a signer writes before it signs. -/
def writtenNames (context : Context) (credentials : Credentials) : List String :=
  stampedNames credentials ++ chunkNames context ++ hashNames context

/-- None of them is EXCLUDED. -/
theorem not_mem_excludedKeys_of_written :
    ∀ name ∈ writtenNames context credentials, Text.lower name ∉ excludedKeys := by
  unfold writtenNames stampedNames chunkNames hashNames
  cases credentials.sessionToken.isSome <;> cases context.usesChunks
    <;> cases context.contentChecksum <;> decide

/-- **What the signer wrote is signed.** -/
theorem Steps.mem_signedNames {request prepared signed : Request} {decoded : Option Int}
    {hash : String} (h : Steps access context credentials request decoded prepared hash signed)
    (hw : context.writesHeaders = true) {name : String}
    (hname : name ∈ writtenNames context credentials) :
    Text.lower name ∈ signedNames signed.fields signed.destination := by
  have hkey : Text.lower name ∈ signed.fields.keys := by
    rw [(h.writes hw).mem_keys]
    unfold writtenNames at hname
    rw [List.append_assoc] at hname
    rcases List.mem_append.mp hname with hstamped | hlater
    · exact .inl (mem_keys_stampFields hstamped)
    · exact .inr (List.mem_map_of_mem (List.mem_append_left _ hlater))
  exact SigV4.mem_signedNames.mpr (.inr ⟨not_mem_excludedKeys_of_written name hname, hkey⟩)

/-- In the header mode, the signature of the canonical form is FOUND in its field. -/
theorem Steps.carries_authorized {request prepared signed : Request} {decoded : Option Int}
    {hash : String} (h : Steps access context credentials request decoded prepared hash signed)
    (hw : context.writesHeaders = true) :
    Carries context credentials (canonicalRequest context hash (unsigned context signed)) signed := by
  unfold Carries unsigned
  simp only [hw, if_true]
  exact h.authorized hw

end Signing

/-- **SIGNED HEADERS ARE EXACTLY THE HEADERS TO PROTECT.**  A signed request carries the signature of its canonical
form and lists the names of its fields.  The names strictly increase, are in lower case and include `host`;
beside that they are the keys of all fields of the request but the excluded ones, those that the signer
wrote itself among them. -/
theorem Signer.sign_protects {s : Signer} {now : Instant} {ps : Properties} {identity : Identity}
    {standing : Standing} {request signed : Request}
    (hidentity : identity.standing now = .ok (some standing))
    (hsign : (s.sign now ps identity request).result = .ok (.signed signed)) :
    ∃ (context : Context) (hash : String), Context.resolve s.config ps now = .ok context
      ∧ let canonical := Signing.canonicalRequest context hash (Signing.unsigned context signed)
        let names := canonical.fields.map Prod.fst
        Signing.Carries context standing.credentials canonical signed
          ∧ (context.writesHeaders = false →
              (Query.valuesOf signed.destination.query "X-Amz-SignedHeaders").getLast?
                = some (";".intercalate names))
          ∧ Protects names signed.fields
          ∧ (context.writesHeaders = true →
              ∀ name ∈ Signing.writtenNames context standing.credentials, Text.lower name ∈ names) := by
  obtain ⟨context, decoded, prepared, hash, hcontext, hsteps⟩ := sign_ok hidentity hsign
  refine ⟨context, hash, hcontext, ?_⟩
  intro canonical names
  have hnames : names = signedNames signed.fields signed.destination :=
    congrArg (List.map Prod.fst) (Signing.fields_unsigned context hash signed)
  have hprotect : Protects names signed.fields := by
    rw [hnames]
    exact signedNames_protect signed.fields signed.destination
  cases hw : context.writesHeaders with
  | true =>
    refine ⟨hsteps.carries_authorized hw, nofun, hprotect, fun _ name hname => ?_⟩
    rw [hnames]
    exact hsteps.mem_signedNames hw hname
  | false =>
    have hc := Context.plain_of_query hcontext hw
    obtain ⟨hcarries, -, hvalues⟩ := hsteps.valuesOf_presigned hc hw
    refine ⟨hcarries, fun _ => ?_, hprotect, nofun⟩
    have hlisted : ("X-Amz-SignedHeaders", canonical.signedHeaders)
        ∈ Signing.signatureParams context standing.credentials canonical := by
      simp [Signing.signatureParams]
    rw [hvalues, Signing.addedValues_of_mem hlisted, List.getLast?_concat]
    rfl

/-- A session, a checksum, and fields of which one is excluded and one has capital letters. -/
theorem Signer.sign_protects_checksum :
    let s : Signer := ⟨.sync, .storage⟩
    let ps : Properties := ⟨[("region", .text "us-east-1"), ("service", .text "s3"),
      ("date", .text "20130524T000000Z")]⟩
    let credentials : Credentials := ⟨"AKIDEXAMPLE", "wJalrXUtnFEMI", some "X123456SESSION"⟩
    let now : Instant := ⟨⟨2013, 5, 24⟩, 0, 0, 0, 0, some 0⟩
    let request : Request := ⟨⟨"https", "example.com", none, none, none, none⟩, "GET",
      .ofList [⟨"User-Agent", ["agent"]⟩, ⟨"X-Custom", ["value"]⟩], .absent⟩
    ∃ signed names, ((Identity.keys credentials none).standing now
          = .ok (some ⟨credentials, none, .flag false, .flag false⟩)
        ∧ (s.sign now ps (.keys credentials none) request).result = .ok (.signed signed))
      ∧ Protects names signed.fields
      ∧ (∃ credential sig, signed.fields.get? "Authorization"
          = some (Signing.authorizationField credential names sig))
      ∧ "x-amz-content-sha256" ∈ names ∧ "x-amz-security-token" ∈ names ∧ "user-agent" ∉ names := by
  intro s ps credentials now request
  let context : Context := ⟨⟨"20130524", "us-east-1", "s3", "aws4_request", true, true⟩,
    "20130524T000000Z", .header, false, false, 65536, true, false, false, 3600⟩
  have hcontext : Context.resolve s.config ps now = .ok context := rfl
  have hhash : (PayloadHash.compute .sync context request.body).result
      = .ok PayloadHash.unsignedPayload := rfl
  obtain ⟨signed, hsigned⟩ := Signing.signIn_plain rfl rfl rfl credentials hhash
  have hsign : (s.sign now ps (.keys credentials none) request).result = .ok (.signed signed) := by
    rw [sign_of_standing rfl rfl rfl rfl hcontext]
    exact hsigned
  obtain ⟨context', hash, hcontext', hcarries, -, hprotect, hwritten⟩ := sign_protects rfl hsign
  obtain rfl : context = context' := Except.ok.inj (hcontext.symm.trans hcontext')
  refine ⟨signed, _, ⟨rfl, hsign⟩, hprotect, ⟨_, _, hcarries⟩, ?_, ?_, ?_⟩
  · exact hwritten rfl "X-Amz-Content-SHA256" (by decide)
  · exact hwritten rfl "X-Amz-Security-Token" (by decide)
  · intro hlisted
    rcases (hprotect.exact _).mp hlisted with hhost | ⟨hkept, -⟩
    · exact absurd hhost (by decide)
    · exact hkept (by decide)

end SigV4
