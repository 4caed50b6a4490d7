/-
  HASHING A PAYLOAD TWICE.

  A signer that hashes a body uses it up, and sends it put back or sends something else in its place.
  Whoever gets the request hashes what was sent.  The two hashes have to be the SAME.

  1. **A supply** — the hash is that of the bytes drained (`ofSupply_result`); what is sent is the
     supply put back, or else what was drained (`ofSupply_sent`).
  2. **What was read, as a body** — `replay` has the hash of the bytes it was made of, for either
     signer (`ofBody_replay`).
  3. **Any body** — `compute_again`, by cases on the signer and the body.  Only a stream that is put
     back could yield other bytes the second time; `Body.Repeatable` asks of it that it does not.
-/
import SigV4.Proofs.Payload.Reliable
import SigV4.Request

namespace SigV4

namespace Body

/-- A body that yields the same bytes again once it is put back, if it can be.  A stream that is read
without waiting is not one that has to be waited for to be sought: what is taken for its way back does not
move it. -/
def Repeatable : Body → Prop
  | stream s => ¬(s.access = .sync ∧ s.seeking = some .async) ∧ (s.seeking ≠ none → s.Repeatable)
  | _ => True

/-- The body, with bytes that nobody can change any more. -/
def frozen : Body → Body
  | byteArray data => bytes data
  | body => body

end Body

theorem Request.freezeBytes_eq (r : Request) : r.freezeBytes = { r with body := r.body.frozen } := by
  obtain ⟨destination, method, fields, body⟩ := r
  cases body <;> rfl

namespace PayloadHash

/-! ## A supply -/

variable {σ : Type} [Supply σ]

theorem ofSupply_result (access : Access) (size : Nat) (wrap : σ → Body)
    (rewind : Option (σ → σ)) (s : σ) :
    (ofSupply access size wrap rewind s).result
      = (Supply.drain size s).result.map fun blocks => Sha256.hexDigest blocks.flatten := by
  simp only [ofSupply]
  cases (Supply.drain size s).result <;> rfl

/-- What is sent after a hashing: the supply PUT BACK, or else what was read. -/
theorem ofSupply_sent {access : Access} {size : Nat} {wrap : σ → Body} {rewind : Option (σ → σ)}
    {s : σ} {blocks : List Bytes} (h : (Supply.drain size s).result = .ok blocks) :
    (ofSupply access size wrap rewind s).next.sent
      = match rewind with
        | some back => wrap (back (Supply.drain size s).next)
        | none => replay access blocks.flatten := by
  simp only [ofSupply, h]
  cases rewind <;> rfl

theorem ofSupply_ok {access : Access} {size : Nat} {wrap : σ → Body} {rewind : Option (σ → σ)}
    {s : σ} {hash : String} (h : (ofSupply access size wrap rewind s).result = .ok hash) :
    ∃ blocks, (Supply.drain size s).result = .ok blocks
      ∧ hash = Sha256.hexDigest blocks.flatten := by
  rw [ofSupply_result] at h
  cases hd : (Supply.drain size s).result with
  | error e =>
    rw [hd] at h
    exact nomatch h
  | ok blocks =>
    rw [hd] at h
    exact ⟨blocks, rfl, (Except.ok.inj h).symm⟩

/-- Of a supply that cannot be put back, WHAT WAS READ is sent. -/
theorem ofSupply_replays {access : Access} {size : Nat} {wrap : σ → Body} {s : σ} {hash : String}
    (h : (ofSupply access size wrap none s).result = .ok hash) :
    ∃ data, (ofSupply access size wrap none s).next.sent = replay access data
      ∧ hash = Sha256.hexDigest data := by
  obtain ⟨blocks, hb, hh⟩ := ofSupply_ok h
  exact ⟨blocks.flatten, ofSupply_sent hb, hh⟩

/-- A source that can be put back IS SENT ITSELF, and has the same hash again. -/
theorem ofSupply_rewinds {access : Access} {size : Nat} (h0 : 0 < size) {s : Source}
    (hs : s.Repeatable) {hash : String}
    (h : (ofSupply access size bodyOf (some (backTo s)) s).result = .ok hash) :
    ∃ t : Source, (ofSupply access size bodyOf (some (backTo s)) s).next.sent = bodyOf t
      ∧ s.Moved t
      ∧ ∀ rewind, (ofSupply access size bodyOf rewind t).result = .ok hash := by
  obtain ⟨blocks, hb, rfl⟩ := ofSupply_ok h
  obtain ⟨again, ha, hf⟩ := Source.drain_again h0 hs hb
  refine ⟨_, ofSupply_sent hb, s.moved_backTo (s.moved_drain size), fun rewind => ?_⟩
  rw [ofSupply_result, ha, ← hf]
  rfl

/-! ## Any body -/

/-- The hash of a body, by one of the two signers. -/
def ofBody (access : Access) (body : Body) : Outcome Exchange String :=
  match access with
  | .sync => sync body
  | .async => async body

/-- How many bytes a signer asks for at once. -/
def blockSize : Access → Nat
  | .sync => readSize
  | .async => Reader.blockSize

/-- What was read, as a body, has the hash of the bytes that it was made of. -/
theorem ofBody_replay (access : Access) (data : Bytes) :
    (ofBody access (replay access data)).result = .ok (Sha256.hexDigest data) := by
  cases access with
  | sync =>
    have hbuffer : (Source.buffer (.ofBytes data)).Reliable := rfl
    obtain ⟨blocks, hb, hrest⟩ := hbuffer.drain (by decide : 0 < readSize) (by decide)
    obtain rfl : blocks.flatten = data := hrest
    show (ofSupply _ _ _ _ (Source.buffer (.ofBytes _))).result = _
    rw [ofSupply_result, hb]
    rfl
  | async =>
    obtain ⟨blocks, hb, hrest⟩ :=
      (Reader.reliable_ofBytes data).drain (by decide : 0 < Reader.blockSize) (by decide)
    obtain rfl : blocks.flatten = data := hrest
    show (ofSupply _ _ _ _ ({ source := .buffer (.ofBytes _) } : Reader)).result = _
    rw [ofSupply_result, hb]
    rfl

/-- What is sent in the place of a supply that cannot be put back has the same hash. -/
theorem replay_again {access : Access} {size : Nat} {wrap : σ → Body} {s : σ} {hash : String}
    (h : (ofSupply access size wrap none s).result = .ok hash) :
    (ofBody access (ofSupply access size wrap none s).next.sent.frozen).result = .ok hash := by
  obtain ⟨data, hdata, rfl⟩ := ofSupply_replays h
  have hf : (replay access data).frozen = replay access data := by cases access <;> rfl
  rw [hdata, hf]
  exact ofBody_replay access data

/-- Whether a signer puts a source back once it has hashed it. -/
def goesBack (access : Access) : Source → Bool
  | .buffer _ => true
  | .stream s => s.seeking = some access
  | .pieces p => access = .sync && p.seekable

theorem goesBack_moved {access : Access} {s t : Source} (hm : s.Moved t) :
    goesBack access t = goesBack access s := by
  cases s with
  | buffer b =>
    obtain ⟨pos, rfl⟩ := Source.moved_buffer hm
    rfl
  | stream a =>
    obtain ⟨c, rfl, -, -, -, -, hseeking⟩ := Source.moved_stream hm
    show decide (c.seeking = some access) = decide (a.seeking = some access)
    rw [hseeking]
  | pieces p =>
    obtain ⟨pulled, rfl⟩ := Source.moved_pieces hm
    rfl

/-- Of a source that is put back, `Body.Repeatable` asks ALL that it can ask. -/
theorem repeatable_of_goesBack {access : Access} {s : Source} (h : goesBack access s = true)
    (hs : (bodyOf s).Repeatable) : s.Repeatable := by
  cases s with
  | stream a =>
    refine hs.2 ?_
    rw [of_decide_eq_true h]
    exact Option.some_ne_none access
  | _ => trivial

/-- A seek that need not be waited for is a way back, and no seek is none. -/
theorem syncWayBack_eq {s : Stream} (h : s.seeking ≠ some .async) :
    syncWayBack s = wayBack (goesBack .sync (.stream s)) (.stream s) := by
  show syncWayBack s = wayBack (decide (s.seeking = some .sync)) (.stream s)
  unfold syncWayBack
  cases hseeking : s.seeking with
  | none => rfl
  | some access =>
    cases access with
    | sync => rfl
    | async => exact absurd hseeking h

/-- A SOURCE THAT WAS HASHED is drained whenever it is hashed, wherever it then stands. -/
theorem ofBody_moved {access : Access} {s t : Source} (hm : s.Moved t)
    (hs : (bodyOf s).Repeatable) {hash : String}
    (h : (ofBody access (bodyOf s)).result = .ok hash) :
    ofBody access (bodyOf t)
      = ofSupply access (blockSize access) bodyOf (wayBack (goesBack access t) t) t := by
  cases s with
  | buffer b =>
    obtain ⟨pos, rfl⟩ := Source.moved_buffer hm
    cases access with
    | sync => rfl
    | async => exact nomatch h
  | stream a =>
    obtain ⟨c, rfl, -, -, -, hc, hseeking⟩ := Source.moved_stream hm
    cases access with
    | sync =>
      have ha : ¬a.access = .async := by
        intro ha
        have hrefused : ofBody .sync (bodyOf (.stream a)) = refuse .asyncBody _ := if_pos ha
        rw [hrefused] at h
        exact nomatch h
      have hsync : a.access = .sync := by
        cases hkind : a.access with
        | sync => rfl
        | async => exact absurd hkind ha
      have hway : c.seeking ≠ some .async := fun hasync => hs.1 ⟨hsync, hseeking.symm.trans hasync⟩
      show (if c.access = .async then _ else _) = _
      rw [if_neg (hc ▸ ha), syncWayBack_eq hway]
      rfl
    | async =>
      have ha : a.access = .async := by
        refine Decidable.of_not_not fun ha => ?_
        have hrefused : ofBody .async (bodyOf (.stream a)) = refuse .syncBody _ := if_neg ha
        rw [hrefused] at h
        exact nomatch h
      exact if_pos (hc ▸ ha)
  | pieces p =>
    obtain ⟨pulled, rfl⟩ := Source.moved_pieces hm
    cases access with
    | sync =>
      have hsync : ¬(!p.isSync) = true := by
        intro hsync
        have hrefused : ofBody .sync (bodyOf (.pieces p)) = refuse .asyncBody _ := if_pos hsync
        rw [hrefused] at h
        exact nomatch h
      exact if_neg hsync
    | async =>
      have hasync : p.isAsync = true := by
        refine Decidable.of_not_not fun hasync => ?_
        have hrefused : ofBody .async (bodyOf (.pieces p)) = refuse .syncBody _ := if_neg hasync
        rw [hrefused] at h
        exact nomatch h
      exact if_pos hasync

/-- A SERIES that was hashed was gone through once. -/
theorem ofBody_series {access : Access} {s : Series} {hash : String}
    (h : (ofBody access (.series s)).result = .ok hash) :
    ofBody access (.series s) = ofSupply access (blockSize access) (fun _ => .series s) none
      (Source.pieces s.iteration) := by
  cases access with
  | sync =>
    by_cases hsync : (!s.iteration.isSync) = true
    · have hrefused : ofBody .sync (.series s) = refuse .asyncBody _ := if_pos hsync
      rw [hrefused] at h
      exact nomatch h
    · exact if_neg hsync
  | async =>
    by_cases hasync : s.iteration.isAsync = true
    · exact if_pos hasync
    · have hrefused : ofBody .async (.series s) = refuse .syncBody _ := if_neg hasync
      rw [hrefused] at h
      exact nomatch h

/-- A source that is read and sent, itself or as what was read, HAS THE SAME HASH AGAIN. -/
theorem bodyOf_again {access : Access} {s : Source} (hs : (bodyOf s).Repeatable) {hash : String}
    (h : (ofBody access (bodyOf s)).result = .ok hash) :
    (ofBody access (ofBody access (bodyOf s)).next.sent.frozen).result = .ok hash := by
  have h0 : 0 < blockSize access := by cases access <;> decide
  have hd := h
  rw [ofBody_moved s.moved_refl hs h] at hd ⊢
  cases hback : goesBack access s with
  | false =>
    -- what was read goes out in the source's place
    have hnone : wayBack false s = none := rfl
    rw [hback, hnone] at hd
    rw [hnone]
    exact replay_again hd
  | true =>
    -- the source goes out itself, and is hashed by the rules that it was hashed by before
    have hsome : wayBack true s = some (backTo s) := rfl
    rw [hback, hsome] at hd
    rw [hsome]
    obtain ⟨t, ht, hm, hagain⟩ := ofSupply_rewinds h0 (repeatable_of_goesBack hback hs) hd
    have hf : (bodyOf t).frozen = bodyOf t := by cases t <;> rfl
    rw [ht, hf, ofBody_moved hm hs h]
    exact hagain _

/-- **The body that is sent has the hash that was signed.** -/
theorem ofBody_again {access : Access} {body : Body} (hb : body.Repeatable) {hash : String}
    (h : (ofBody access body).result = .ok hash) :
    (ofBody access (ofBody access body).next.sent.frozen).result = .ok hash := by
  cases access with
  | sync =>
    cases body with
    | absent => exact h
    | bytes data => exact h
    | byteArray data => exact h
    | parts items =>
      obtain rfl := Except.ok.inj h
      exact ofBody_replay .sync items.flatten
    | buffer b => exact bodyOf_again (s := .buffer b) trivial h
    | stream s => exact bodyOf_again (s := .stream s) hb h
    | pieces p => exact bodyOf_again (s := .pieces p) trivial h
    | series s =>
      have hread := ofBody_series h
      rw [hread] at h ⊢
      exact replay_again h
    | reader origin r => exact nomatch h
    | seriesReader r => exact nomatch h
    | framed depth p => exact replay_again (σ := Framed (Layer depth)) h
    | inert typeName => exact nomatch h
  | async =>
    cases body with
    | absent => exact h
    | bytes data => exact h
    | byteArray data => exact h
    | parts items => exact nomatch h
    | buffer b => exact nomatch h
    | stream s => exact bodyOf_again (s := .stream s) hb h
    | pieces p => exact bodyOf_again (s := .pieces p) trivial h
    | series s =>
      have hread := ofBody_series h
      rw [hread] at h ⊢
      exact replay_again h
    | reader origin r => exact replay_again h
    | seriesReader r => exact replay_again h
    | framed depth p => exact nomatch h
    | inert typeName => exact nomatch h

/-- **The hash, or the word that stands for it, is found again** in the body that is sent. -/
theorem compute_again {access : Access} {context : Context} {body : Body}
    (hb : context.usesChunks = false → body.Repeatable) {hash : String}
    (h : (compute access context body).result = .ok hash) {sent : Body}
    (hsent : context.usesChunks = false → sent = (compute access context body).next.sent.frozen) :
    (compute access context sent).result = .ok hash := by
  unfold compute at h hsent ⊢
  cases hw : placeholder? context with
  | some word =>
    rw [hw] at h
    exact h
  | none =>
    -- a payload in chunks has a word for its hash
    have hchunks : context.usesChunks = false := by
      unfold placeholder? at hw
      split at hw
      · exact nomatch hw
      · split at hw
        · exact nomatch hw
        · rename_i hno
          simpa using hno
    rw [hw] at h hsent
    rw [hsent hchunks]
    exact ofBody_again (hb hchunks) h

end PayloadHash

end SigV4
