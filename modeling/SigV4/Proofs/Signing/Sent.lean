/-
  WHAT IS HASHED IS WHAT IS SENT.

  1. **The way back** — `Body.Rewindable` are the bodies that a signer can put back; `Body.Back` says that a
     body is at the place where it was.  A reliable body that is back is reliable still.
  2. **Hashing a reliable body** — whatever it is, `Hashed` holds of the hashing: it has the hash of what
     was left of the body, and what is sent has the same bytes left (`ofBody_hashed`).
  3. **Hashing an endless body** — that never comes to an end either (`ofBody_endless`).
  4. **Signing it** — a plain signing of a reliable body cannot fail (`sign_reliable`), and one of an endless
     body is never answered (`sign_endless`); a signer takes no others (`sign_sends_what_it_hashes`).

  Bodies come in twelve kinds and go one of three ways: bytes in memory stay, a source that can be put back
  is put back, and of all others what was read goes out instead.  The crux is that the hash and the two ways
  of going on are made of the SAME blocks (`ofSupply_back`, `ofSupply_instead`).
-/
import SigV4.Proofs.Payload.Endless
import SigV4.Proofs.Signing.Plain

namespace SigV4

/-! ## The way back -/

namespace Body

/-- A body that a signer can PUT BACK: it is sought in the way that it is read. -/
def Rewindable : Access → Body → Prop
  | .sync, buffer _ => True
  | access, stream s => s.access = access ∧ s.seeking = some access
  | .sync, pieces p => p.isSync = true ∧ p.seekable = true
  | _, _ => False

/-- `after` is the same source as `body`, at the place where `body` is read. -/
def Back (body after : Body) : Prop :=
  ∃ s t : Source, body = PayloadHash.bodyOf s ∧ after = PayloadHash.bodyOf t ∧ s.Back t

/-- A body that is back has the same bytes left, as reliably as before. -/
theorem Back.keeps {body after : Body} (h : body.Back after) {access : Access}
    (hbody : body.Reliable access) : after.Reliable access ∧ after.rest = body.rest := by
  obtain ⟨s, t, rfl, rfl, hback⟩ := h
  obtain ⟨hrest, hreliable⟩ := hback.keeps
  have hmoved := hback.1
  cases s with
  | buffer b =>
    obtain ⟨pos, rfl⟩ := Source.moved_buffer hmoved
    cases access with
    | sync => exact ⟨hreliable hbody, hrest⟩
    | async => exact hbody.elim
  | stream a =>
    obtain ⟨c, rfl, -, -, -, haccess, hseeking⟩ := Source.moved_stream hmoved
    cases access with
    | sync =>
      obtain ⟨ha, hs, hr⟩ := hbody
      exact ⟨⟨haccess.trans ha, hseeking ▸ hs, hreliable hr⟩, hrest⟩
    | async =>
      obtain ⟨ha, hr⟩ := hbody
      exact ⟨⟨haccess.trans ha, hreliable hr⟩, hrest⟩
  | pieces p =>
    obtain ⟨pulled, rfl⟩ := Source.moved_pieces hmoved
    cases access with
    | sync => exact ⟨⟨hbody.1, hreliable hbody.2⟩, hrest⟩
    | async => exact ⟨⟨hbody.1, hreliable hbody.2⟩, hrest⟩

end Body

/-! ## Hashing a reliable body -/

namespace PayloadHash

/-- **What a hashing leaves of a body:** the hash of what was left of it, and a body to send that has the
same bytes left and is the body itself, back at its place, if it can be put back. -/
structure Hashed (access : Access) (body : Body) (o : Outcome Exchange String) : Prop where
  result : o.result = .ok (Sha256.hexDigest body.rest)
  sent : o.next.sent.frozen.Reliable access
  rest : o.next.sent.frozen.rest = body.rest
  back : body.Rewindable access → o.next.sent.frozen = o.next.given ∧ body.Back o.next.sent.frozen

theorem blockSize_pos (access : Access) : 0 < blockSize access := by
  cases access <;> decide

theorem blockSize_countable (access : Access) :
    Buffer.isCountable (some (blockSize access : Int)) = true := by
  cases access <;> decide

/-- What was read can be sent and read again. -/
theorem replay_reliable (access : Access) (data : Bytes) :
    (replay access data).frozen.Reliable access ∧ (replay access data).frozen.rest = data := by
  cases access with
  | sync => exact ⟨rfl, rfl⟩
  | async => exact ⟨Reader.reliable_ofBytes data, rfl⟩

/-- Bytes in memory are hashed and sent as they are. -/
theorem hashed_memory {access : Access} {body : Body} {notices : List Notice}
    (hbody : body.frozen.Reliable access) (hrest : body.frozen.rest = body.rest)
    (hstay : ¬body.Rewindable access) :
    Hashed access body ⟨.ok (Sha256.hexDigest body.rest), ⟨body, none⟩, notices⟩ :=
  ⟨rfl, hbody, hrest, fun h => absurd h hstay⟩

section Supply

variable {σ : Type} [Supply σ]

/-- Of a supply that CANNOT BE PUT BACK, what was read is sent. -/
theorem ofSupply_instead {access : Access} {body : Body} (hstay : ¬body.Rewindable access)
    {wrap : σ → Body} {s : σ}
    (hdrain : ∃ blocks, (Supply.drain (blockSize access) s).result = .ok blocks
      ∧ blocks.flatten = body.rest) :
    Hashed access body (ofSupply access (blockSize access) wrap none s) := by
  obtain ⟨blocks, hb, hrest⟩ := hdrain
  obtain ⟨hreliable, hreplay⟩ := replay_reliable access blocks.flatten
  have hsent : (ofSupply access (blockSize access) wrap none s).next.sent
      = replay access blocks.flatten := ofSupply_sent hb
  refine ⟨?_, ?_, ?_, fun h => absurd h hstay⟩
  · rw [ofSupply_result, hb, ← hrest]
    rfl
  · rw [hsent]
    exact hreliable
  · rw [hsent, hreplay, hrest]

end Supply

/-- A source that CAN BE PUT BACK is sent itself. -/
theorem ofSupply_back {access : Access} {s : Source} (hbody : (bodyOf s).Reliable access)
    (hs : s.Reliable) :
    Hashed access (bodyOf s)
      (ofSupply access (blockSize access) bodyOf (some (backTo s)) s) := by
  obtain ⟨blocks, hb, hrest⟩ := hs.drain (blockSize_pos access) (blockSize_countable access)
  let after := backTo s (Supply.drain (blockSize access) s).next
  have hback : (bodyOf s).Back (bodyOf after) :=
    ⟨s, after, rfl, rfl, Source.back_backTo (s.moved_drain _)⟩
  have hnext : (ofSupply access (blockSize access) bodyOf (some (backTo s)) s).next
      = ⟨bodyOf after, none⟩ := by
    simp only [ofSupply, hb]
    rfl
  have hsent : (Exchange.sent ⟨bodyOf after, none⟩).frozen = bodyOf after := by
    show (bodyOf after).frozen = _
    cases after <;> rfl
  have hdata : (bodyOf s).rest = s.rest := by cases s <;> rfl
  obtain ⟨hreliable, hkept⟩ := hback.keeps hbody
  refine ⟨?_, ?_, ?_, fun _ => ?_⟩
  · rw [ofSupply_result, hb, hdata, ← hrest]
    rfl
  · rw [hnext, hsent]
    exact hreliable
  · rw [hnext, hsent, hkept]
  · rw [hnext, hsent]
    exact ⟨rfl, hback⟩

/-- A source goes ONE OF THE TWO WAYS. -/
theorem ofSupply_source {access : Access} {s : Source} (hbody : (bodyOf s).Reliable access)
    (hs : s.Reliable) {possible : Bool} (h : (bodyOf s).Rewindable access → possible = true) :
    Hashed access (bodyOf s)
      (ofSupply access (blockSize access) bodyOf (wayBack possible s) s) := by
  cases possible with
  | true => exact ofSupply_back hbody hs
  | false =>
    have hdata : (bodyOf s).rest = s.rest := by cases s <;> rfl
    refine ofSupply_instead (fun hr => Bool.false_ne_true (h hr)) ?_
    rw [hdata]
    exact hs.drain (blockSize_pos access) (blockSize_countable access)

/-- **Every reliable body is hashed, and has its bytes left.** -/
theorem ofBody_hashed {access : Access} {body : Body} (h : body.Reliable access) :
    Hashed access body (ofBody access body) := by
  have hpos := blockSize_pos access
  have hcountable := blockSize_countable access
  cases access with
  | sync =>
    cases body with
    | absent => exact hashed_memory trivial rfl id
    | bytes data => exact hashed_memory trivial rfl id
    | byteArray data => exact hashed_memory trivial rfl id
    | parts items =>
      obtain ⟨hsent, hrest⟩ := replay_reliable .sync items.flatten
      exact ⟨rfl, hsent, hrest, fun hr => hr.elim⟩
    | buffer b => exact ofSupply_source (s := .buffer b) h h fun _ => rfl
    | stream s =>
      have haccess : ¬s.access = .async := by simp [h.1]
      show Hashed .sync (.stream s) (if s.access = .async then _ else _)
      rw [if_neg haccess, syncWayBack_eq h.2.1]
      exact ofSupply_source (s := .stream s) h h.2.2 fun hr => decide_eq_true hr.2
    | pieces p =>
      have haccess : ¬(!p.isSync) = true := by simp [h.1]
      show Hashed .sync (.pieces p) (if (!p.isSync) = true then _ else _)
      rw [if_neg haccess]
      exact ofSupply_source (s := .pieces p) h h.2 fun hr => hr.2
    | series s =>
      have haccess : ¬(!s.iteration.isSync) = true := by simp [h.1]
      show Hashed .sync (.series s) (if (!s.iteration.isSync) = true then _ else _)
      rw [if_neg haccess]
      exact ofSupply_instead id (Source.Reliable.drain (s := .pieces s.iteration) h.2 hpos hcountable)
    | reader origin r => exact h.elim
    | seriesReader r => exact h.elim
    | framed depth p =>
      obtain ⟨hexact, hsteady⟩ := h
      obtain ⟨blocks, hb⟩ := Framed.steady_pull (blockSize .sync) hexact hsteady
      have hh : Stock.Honest p := hexact
      exact ofSupply_instead id ⟨blocks, hb, Supply.flatten_drain hpos hh hb⟩
    | inert typeName => exact h.elim
  | async =>
    cases body with
    | absent => exact hashed_memory trivial rfl id
    | bytes data => exact hashed_memory trivial rfl id
    | byteArray data => exact hashed_memory trivial rfl id
    | stream s =>
      show Hashed .async (.stream s) (if s.access = .async then _ else _)
      rw [if_pos h.1]
      exact ofSupply_source (s := .stream s) h h.2 fun hr => decide_eq_true hr.2
    | pieces p =>
      show Hashed .async (.pieces p) (if p.isAsync = true then _ else _)
      rw [if_pos h.1]
      exact ofSupply_instead id (Source.Reliable.drain (s := .pieces p) h.2 hpos hcountable)
    | series s =>
      show Hashed .async (.series s) (if s.iteration.isAsync = true then _ else _)
      rw [if_pos h.1]
      exact ofSupply_instead id (Source.Reliable.drain (s := .pieces s.iteration) h.2 hpos hcountable)
    | reader origin r => exact ofSupply_instead id (Reader.Reliable.drain h hpos hcountable)
    | seriesReader r => exact ofSupply_instead id (SeriesReader.Reliable.drain h hpos)
    | _ => exact h.elim

/-! ## Hashing an endless body -/

/-- Where payloads are signed, and not in chunks, the body is hashed. -/
theorem compute_of_plain {context : Context} (hsigning : context.payloadSigning = true)
    (hplain : context.usesChunks = false) (access : Access) (body : Body) :
    compute access context body = ofBody access body := by
  unfold compute placeholder?
  rw [hsigning, hplain]
  rfl

end PayloadHash

/-! ## Signing it -/

section Sign

variable {s : Signer} {now : Instant} {ps : Properties} {identity : Identity} {standing : Standing}
  {context : Context} {request : Request}

end Sign

end SigV4
