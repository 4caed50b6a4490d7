/-
  The CHECKSUM in the header, and the hash of the payload that is signed.

  1. **Written** — in the header mode, where the checksum is asked for or the body is sent in chunks, the one
     field of its name has the hash as its one value (`Steps.checksums_written`).
  2. **Kept** — anywhere else the field is LEFT ALONE: what the request had of it is there as it was
     (`Steps.checksums_kept`).
  3. **Agreement** — so the checksum that a signed request carries is the hash that was signed exactly where it was
     written, or where the request's own was that hash (`Signer.sign_checksum`).

  The crux is that the hash stands in the canonical form ALWAYS, and in the header only behind a gate: a field
  from an earlier signing, in another mode, is signed as it is.
-/
import SigV4.Proofs.Signing.Coverage

namespace SigV4

/-! ## What a request carries -/

namespace Request

/-- The values of the field for the checksum of the payload, as often as it is there. -/
def checksums (r : Request) : List (List String) :=
  (r.fields.toList.filter (·.key = "x-amz-content-sha256")).map Field.values

/-- **If a request carries a checksum, it is this one.** -/
def AgreesWith (r : Request) (hash : String) : Prop := ∀ values ∈ r.checksums, values = [hash]

end Request

namespace Signing

/-- Where the hash of the payload is written into the header. -/
def writesChecksum (context : Context) : Bool :=
  context.writesHeaders && (context.contentChecksum || context.usesChunks)

variable {access : Access} {context : Context} {credentials : Credentials}
  {request prepared signed : Request} {decoded : Option Int} {hash : String}

/-- The hash that is signed is that of the GIVEN body: the preparation does not change what is hashed. -/
theorem Steps.hash_given
    (h : Steps access context credentials request decoded prepared hash signed) :
    (PayloadHash.compute access context request.body).result = .ok hash := by
  have hhashed := h.hashed
  cases hc : context.usesChunks with
  | true =>
    rw [compute_chunked hc] at hhashed ⊢
    exact hhashed
  | false =>
    have hwritten := h.written
    rw [lengthFor_plain hc] at hwritten
    have hbody : prepared.body = request.body := body_prepare hwritten
    rw [← hbody]
    exact hhashed

/-! ## Written -/

/-- **Where the checksum is written,** it is the one of its name, and its one value is the hash. -/
theorem Steps.checksums_written
    (h : Steps access context credentials request decoded prepared hash signed)
    (hwrites : writesChecksum context = true) : signed.checksums = [[hash]] := by
  obtain ⟨hw, hchecksum⟩ := Bool.and_eq_true_iff.mp hwrites
  have hkey : Field.key ⟨"X-Amz-Content-SHA256", [hash]⟩ = "x-amz-content-sha256" := by
    show Text.lower "X-Amz-Content-SHA256" = _
    decide
  obtain ⟨hsigned, -⟩ := finish_writes hw h.finished
  -- the signature is written behind it, under another name
  have hother (credential : String) (names : List String) (sig : String) (g : Field)
      (hg : g.key = (authorizationField credential names sig).key) :
      decide (g.key = "x-amz-content-sha256") = false := by
    have hauthorization : g.key = Text.lower "Authorization" := hg
    rw [hauthorization]
    decide
  rw [Request.checksums, hsigned, Fields.filter_set _ _ (hother _ _ _), writeHash, hw, Bool.true_and,
    if_pos hchecksum]
  have hset := Fields.filter_set_self prepared.fields ⟨"X-Amz-Content-SHA256", [hash]⟩
  rw [hkey] at hset
  rw [Request.freezeBytes_eq]
  exact congrArg (List.map Field.values) hset

/-! ## Kept -/

/-- **Anywhere else** what the request had is there as it was. -/
theorem Steps.checksums_kept
    (h : Steps access context credentials request decoded prepared hash signed)
    (hquery : context.writesHeaders = false → context.usesChunks = false)
    (hwrites : writesChecksum context = false) : signed.checksums = request.checksums := by
  unfold Request.checksums
  cases hw : context.writesHeaders with
  | false =>
    obtain ⟨-, hfields, -⟩ := h.valuesOf_presigned (hquery hw) hw
    rw [hfields]
  | true =>
    rw [writesChecksum, hw, Bool.true_and, Bool.or_eq_false_iff] at hwrites
    obtain ⟨hchecksum, hc⟩ := hwrites
    have hrow := h.writes hw
    rw [chunkNames, hashNames, hchecksum, hc] at hrow
    congr 1
    rw [hrow.filter, filter_stampFields_of_other]
    · intro g hg
      rcases List.mem_cons.mp hg with hkey | hg
      · rw [hkey]
        decide
      · rw [List.mem_singleton.mp hg]
        decide
    · intro g hg
      have hkey : g.key = Text.lower "Authorization" := List.mem_singleton.mp hg
      rw [hkey]
      decide

end Signing

/-! ## Agreement -/

open Signing

/-- **THE CHECKSUM OF A SIGNED REQUEST.**  Where the checksum is written, the request carries it once and it is the
hash of the canonical form that was signed.  Anywhere else the request carries what it had; so it agrees with
that hash exactly if its own did. -/
theorem Signer.sign_checksum {s : Signer} {now : Instant} {ps : Properties} {identity : Identity}
    {standing : Standing} {request signed : Request}
    (hidentity : identity.standing now = .ok (some standing))
    (hsign : (s.sign now ps identity request).result = .ok (.signed signed)) :
    ∃ (context : Context) (hash : String), Context.resolve s.config ps now = .ok context
      ∧ (PayloadHash.compute s.access context request.body).result = .ok hash
      ∧ let canonical := canonicalRequest context hash (unsigned context signed)
        Carries context standing.credentials canonical signed
          ∧ (writesChecksum context = true → signed.checksums = [[canonical.payloadHash]])
          ∧ (writesChecksum context = false → signed.checksums = request.checksums)
          ∧ (signed.AgreesWith canonical.payloadHash
              ↔ writesChecksum context = true ∨ request.AgreesWith canonical.payloadHash) := by
  obtain ⟨context, decoded, prepared, hash, hcontext, hsteps⟩ := sign_ok hidentity hsign
  refine ⟨context, hash, hcontext, hsteps.hash_given, ?_⟩
  intro canonical
  have hcarries : Carries context standing.credentials canonical signed := by
    cases hw : context.writesHeaders with
    | true => exact hsteps.carries_authorized hw
    | false => exact (hsteps.valuesOf_presigned (Context.plain_of_query hcontext hw) hw).1
  have hwritten : writesChecksum context = true → signed.checksums = [[hash]] :=
    hsteps.checksums_written
  have hkept : writesChecksum context = false → signed.checksums = request.checksums :=
    hsteps.checksums_kept (Context.plain_of_query hcontext)
  refine ⟨hcarries, hwritten, hkept, ?_⟩
  unfold Request.AgreesWith
  cases hwrites : writesChecksum context with
  | true =>
    rw [hwritten hwrites]
    refine iff_of_true ?_ (.inl rfl)
    intro values hvalues
    exact List.mem_singleton.mp hvalues
  | false => rw [hkept hwrites, or_iff_right Bool.false_ne_true]

/-- The checksum of an earlier signing is replaced, whatever its letter case. -/
theorem Signer.sign_checksum_replaced :
    let s : Signer := ⟨.sync, .storage⟩
    let ps : Properties := ⟨[("region", .text "us-east-1"), ("service", .text "s3"),
      ("date", .text "20130524T000000Z")]⟩
    let credentials : Credentials := ⟨"AKIDEXAMPLE", "wJalrXUtnFEMI", none⟩
    let now : Instant := ⟨⟨2013, 5, 24⟩, 0, 0, 0, 0, some 0⟩
    let request : Request := ⟨⟨"https", "example.com", none, none, none, none⟩, "GET",
      .ofList [⟨"x-AMZ-content-sha256", ["stale", "older"]⟩], .absent⟩
    ∃ signed, ((Identity.keys credentials none).standing now
          = .ok (some ⟨credentials, none, .flag false, .flag false⟩)
        ∧ (s.sign now ps (.keys credentials none) request).result = .ok (.signed signed))
      ∧ request.checksums = [["stale", "older"]] ∧ signed.checksums = [["UNSIGNED-PAYLOAD"]] := by
  intro s ps credentials now request
  let context : Context := ⟨⟨"20130524", "us-east-1", "s3", "aws4_request", true, true⟩,
    "20130524T000000Z", .header, false, false, 65536, true, false, false, 3600⟩
  have hcontext : Context.resolve s.config ps now = .ok context := rfl
  have hhash : (PayloadHash.compute .sync context request.body).result
      = .ok PayloadHash.unsignedPayload := rfl
  obtain ⟨signed, hsigned⟩ := signIn_plain rfl rfl rfl credentials hhash
  have hsign : (s.sign now ps (.keys credentials none) request).result = .ok (.signed signed) := by
    rw [sign_of_standing rfl rfl rfl rfl hcontext]
    exact hsigned
  refine ⟨signed, ⟨rfl, hsign⟩, by decide +kernel, ?_⟩
  obtain ⟨context', hash, hcontext', hcomputed, -, hwritten, -⟩ := sign_checksum rfl hsign
  obtain rfl : context = context' := Except.ok.inj (hcontext.symm.trans hcontext')
  obtain rfl : PayloadHash.unsignedPayload = hash := Except.ok.inj (hhash.symm.trans hcomputed)
  exact hwritten rfl

/-- Where no checksum is written, a stale one STAYS, beside a signature of the word for a payload that is
not signed. -/
theorem Signer.sign_checksum_stale :
    let s : Signer := ⟨.sync, .plain⟩
    let ps : Properties := ⟨[("region", .text "us-east-1"), ("service", .text "iam"),
      ("date", .text "20150830T123600Z")]⟩
    let credentials : Credentials := ⟨"AKIDEXAMPLE", "wJalrXUtnFEMI", none⟩
    let now : Instant := ⟨⟨2015, 8, 30⟩, 12, 36, 0, 0, some 0⟩
    let request : Request := ⟨⟨"https", "example.com", none, none, none, none⟩, "GET",
      .ofList [⟨"X-Amz-Content-SHA256", ["stale"]⟩], .absent⟩
    ∃ context canonical signed, Context.resolve s.config ps now = .ok context
      ∧ (s.sign now ps (.keys credentials none) request).result = .ok (.signed signed)
      ∧ Carries context credentials canonical signed
      ∧ canonical.payloadHash = "UNSIGNED-PAYLOAD" ∧ signed.checksums = [["stale"]] := by
  intro s ps credentials now request
  let context : Context := ⟨⟨"20150830", "us-east-1", "iam", "aws4_request", true, true⟩,
    "20150830T123600Z", .header, false, false, 65536, false, false, true, 3600⟩
  have hcontext : Context.resolve s.config ps now = .ok context := rfl
  have hhash : (PayloadHash.compute .sync context request.body).result
      = .ok PayloadHash.unsignedPayload := rfl
  obtain ⟨signed, hsigned⟩ := signIn_plain rfl rfl rfl credentials hhash
  obtain ⟨decoded, prepared, hash, hsteps⟩ := signIn_ok hsigned
  obtain rfl : PayloadHash.unsignedPayload = hash :=
    Except.ok.inj (hhash.symm.trans hsteps.hash_given)
  refine ⟨context, _, signed, hcontext, ?_, hsteps.carries_authorized rfl, rfl, ?_⟩
  · rw [sign_of_standing rfl rfl rfl rfl hcontext]
    exact hsigned
  · rw [hsteps.checksums_kept nofun rfl]
    decide +kernel

end SigV4
