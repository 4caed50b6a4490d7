/-
  What a signer WRITES into the header.

  1. **Stamping** — the timestamp is set, and the session token is set or erased (`stampFields`).
  2. **Later writes** — all that is written behind that is SET: what announces a body in chunks, the hash of
     the payload, and the signature at last.
  3. **The whole** — so the fields of a signed request are the stamped ones with a row of fields set, of known
     names (`Steps.writes`).

  The crux is that every signing writes in ONE order: a flag only takes its names out of the row.
-/
import SigV4.Proofs.Signing.Chunked

namespace SigV4.Signing

/-- The names of the fields that are stamped. -/
def stampedNames (credentials : Credentials) : List String :=
  "X-Amz-Date" :: if credentials.sessionToken.isSome then ["X-Amz-Security-Token"] else []

/-- The names of the fields that announce a body in chunks. -/
def chunkNames (context : Context) : List String :=
  if context.usesChunks then
    ["Content-Encoding", "Content-Length", "X-Amz-Decoded-Content-Length"]
  else []

/-- The name of the field for the hash, where it is written. -/
def hashNames (context : Context) : List String :=
  if context.contentChecksum || context.usesChunks then ["X-Amz-Content-SHA256"] else []

variable {access : Access} {context : Context} {credentials : Credentials}

/-! ## Stamping -/

/-- What is stamped IS THERE. -/
theorem mem_keys_stampFields {fields : Fields} {name : String} :
    name ∈ stampedNames credentials →
      Text.lower name ∈ (stampFields context credentials fields).keys := by
  unfold stampedNames stampFields
  cases credentials.sessionToken with
  | some token =>
    intro h
    rcases List.mem_cons.mp h with rfl | h
    · exact Fields.mem_keys_set.mpr (.inr (Fields.mem_keys_set.mpr (.inl rfl)))
    · obtain rfl := List.mem_singleton.mp h
      exact Fields.mem_keys_set.mpr (.inl rfl)
  | none =>
    intro h
    obtain rfl := List.mem_singleton.mp h
    exact Fields.mem_keys_erase.mpr ⟨by decide, Fields.mem_keys_set.mpr (.inl rfl)⟩

/-- Whoever looks at neither the timestamp nor the token sees NO STAMP. -/
theorem filter_stampFields_of_other (fields : Fields) {choice : Field → Bool}
    (h : ∀ g : Field, g.key ∈ ["x-amz-date", "x-amz-security-token"] → choice g = false) :
    (stampFields context credentials fields).toList.filter choice = fields.toList.filter choice := by
  have hdated : (fields.set ⟨"X-Amz-Date", [context.timestamp]⟩).toList.filter choice
      = fields.toList.filter choice := by
    apply Fields.filter_set
    intro g hg
    have hkey : g.key = Text.lower "X-Amz-Date" := hg
    apply h
    rw [hkey]
    decide
  have hother (g : Field) (hg : g.key = Text.lower "X-Amz-Security-Token") : choice g = false := by
    apply h
    rw [hg]
    decide
  unfold stampFields
  cases credentials.sessionToken with
  | some token => exact (Fields.filter_set _ ⟨"X-Amz-Security-Token", [token]⟩ hother).trans hdated
  | none => exact (Fields.filter_erase _ _ hother).trans hdated

/-! ## Later writes -/

/-- A length is found exactly where a body is sent in chunks. -/
theorem isSome_measured {request : Request} {decoded : Option Int}
    (h : (lengthFor context request).result = .ok decoded) : decoded.isSome = context.usesChunks := by
  cases hc : context.usesChunks with
  | true =>
    rw [lengthFor, if_pos hc] at h
    obtain ⟨length, -, rfl⟩ := ok_of_map_ok h
    rfl
  | false =>
    rw [lengthFor_plain hc] at h
    rw [← Except.ok.inj h]
    rfl

/-- The preparation sets what announces the chunks, if there are any. -/
theorem prepare_writes (hw : context.writesHeaders = true) {decoded : Option Int}
    (hdecoded : decoded.isSome = context.usesChunks) {request prepared : Request}
    (h : prepare context credentials decoded request = .ok prepared) :
    (stampFields context credentials request.fields).Wrote (chunkNames context) prepared.fields := by
  unfold prepare at h
  rw [if_neg (by simp [hw])] at h
  unfold chunkNames
  rw [← hdecoded]
  cases decoded with
  | none =>
    rw [← Except.ok.inj h]
    exact .nothing _
  | some length =>
    obtain ⟨fields, hfields, rfl⟩ := ok_of_map_ok h
    obtain ⟨total, -, rfl⟩ := announceChunks_ok hfields
    exact ⟨[_, _, _], rfl, rfl⟩

/-- The hash is set, where it is written. -/
theorem writeHash_writes (hw : context.writesHeaders = true) (hash : String) (request : Request) :
    request.fields.Wrote (hashNames context) (writeHash context hash request).fields := by
  unfold writeHash hashNames
  rw [hw, Bool.true_and]
  split
  · exact .field _ _
  · exact .nothing _

/-! ## The whole -/

/-- **THE FIELDS OF A SIGNED REQUEST:** the stamped ones, with a row of others set behind them. -/
theorem Steps.writes {request prepared signed : Request} {decoded : Option Int} {hash : String}
    (h : Steps access context credentials request decoded prepared hash signed)
    (hw : context.writesHeaders = true) :
    (stampFields context credentials request.fields).Wrote
      (chunkNames context ++ hashNames context ++ ["Authorization"]) signed.fields := by
  have hprepared := prepare_writes hw (isSome_measured h.measured) h.written
  let sent : Request :=
    ({ prepared with body := (PayloadHash.compute access context prepared.body).next.sent } :
      Request).freezeBytes
  have hsent : sent.fields = prepared.fields := by simp only [sent, Request.freezeBytes_eq]
  have hhashed := writeHash_writes hw hash sent
  rw [hsent] at hhashed
  obtain ⟨hsigned, -⟩ := finish_writes hw h.finished
  rw [hsigned]
  exact (hprepared.append hhashed).append (.field _ _)

/-- In the header mode the address STAYS what it was. -/
theorem Steps.destination_eq {request prepared signed : Request} {decoded : Option Int}
    {hash : String} (h : Steps access context credentials request decoded prepared hash signed)
    (hw : context.writesHeaders = true) : signed.destination = request.destination := by
  have hwriteHash (r : Request) : (writeHash context hash r).destination = r.destination := by
    unfold writeHash
    split
    · rfl
    · rfl
  have hprepared := prepare_keeps hw h.written
  have hfinished := h.finished
  rw [Request.freezeBytes_eq] at hfinished
  obtain ⟨hsigned, -⟩ := finish_writes hw hfinished
  rw [hsigned]
  show (writeHash context hash _).destination = _
  rw [hwriteHash, hprepared]

end SigV4.Signing
