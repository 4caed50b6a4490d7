/-
  WHAT WAS SENT IS SENT AGAIN: a signing that is repeated leaves the body as the first one left it.

  1. **Readers** — `Body.ReadsLike` compares two bodies by what a reader gets of them, in blocks of any size.
  2. **Put back** — a source that a signing put back is put back by the next one as well: it is as repeatable as
     it was, and it is at the same place (`source_settles`).
  3. **Instead** — of all others what was read went out, and that goes out as itself (`replay_settles`).

  A body goes the same way the second time, since what was sent is of a kind that goes it.  The crux is that a
  stream in its place is a new stream with the same answers (`Back.readsLike`), so no equation of bodies holds.
-/
import SigV4.Proofs.Signing.Hashing

namespace SigV4

/-! ## Readers -/

namespace Body

/-- **Whoever reads the one body to its end gets what the other yields,** in blocks of any size. -/
def ReadsLike (body other : Body) : Prop := ∀ size : Nat, 0 < size → body.readOut size = other.readOut size

theorem ReadsLike.refl (body : Body) : body.ReadsLike body := fun _ _ => rfl

theorem ReadsLike.yields {body other : Body} (h : body.ReadsLike other) {data : Bytes}
    (hother : other.Yields data) : body.Yields data := by
  intro size h0 hsize
  rw [h size h0]
  exact hother size h0 hsize

end Body

namespace Source

/-- What a source may do when it is read does not depend on its PLACE. -/
theorem Moved.repeatable {s t : Source} (h : s.Moved t) (hs : s.Repeatable) : t.Repeatable := by
  cases s with
  | buffer b =>
    obtain ⟨pos, rfl⟩ := moved_buffer h
    trivial
  | stream a =>
    obtain ⟨c, rfl, -, hlimit, hfails, -, -⟩ := moved_stream h
    obtain ⟨hunfailing, hmute⟩ := hs
    constructor
    · intro k
      rw [hfails]
      exact hunfailing k
    · rw [hlimit]
      exact hmute
  | pieces p =>
    obtain ⟨pulled, rfl⟩ := moved_pieces h
    trivial

/-- A source that is back at its place yields what it would have yielded. -/
theorem Back.readsLike {s t : Source} (h : s.Back t) (hs : s.Repeatable) :
    (PayloadHash.bodyOf t).ReadsLike (PayloadHash.bodyOf s) := by
  obtain ⟨hmoved, hplace⟩ := h
  cases s with
  | buffer b =>
    obtain ⟨pos, rfl⟩ := moved_buffer hmoved
    obtain rfl : pos = b.pos := hplace
    exact .refl _
  | stream a =>
    obtain ⟨c, rfl, hdata, hlimit, hfails, -, -⟩ := moved_stream hmoved
    have hpos : c.pos = a.pos := hplace
    have hrest : c.rest = a.rest := by
      show c.data.drop c.pos = a.data.drop a.pos
      rw [hdata, hpos]
    intro size h0
    have hunfailing : (stream a).Unfailing size := hs.1
    obtain ⟨blocks, hblocks⟩ := steady_of_unfailing hunfailing
    obtain ⟨again, hagain, hsame⟩ := drain_stream_again h0 hs hrest hlimit hfails hblocks
    show (Supply.drain size (stream c)).result.map List.flatten
      = (Supply.drain size (stream a)).result.map List.flatten
    rw [hblocks, hagain]
    exact congrArg Except.ok hsame
  | pieces p =>
    obtain ⟨pulled, rfl⟩ := moved_pieces hmoved
    obtain rfl : pulled = p.pulled := hplace
    exact .refl _

end Source

/-! ## Put back -/

namespace PayloadHash

/-- A source that is put back is put back ONCE MORE. -/
theorem source_settles {access : Access} {s : Source} (hback : goesBack access s = true)
    (hs : (bodyOf s).Repeatable) {hash : String}
    (h : (ofBody access (bodyOf s)).result = .ok hash) :
    let sent := (ofBody access (bodyOf s)).next.sent.frozen
    (ofBody access sent).next.sent.frozen.ReadsLike sent := by
  have h0 : 0 < blockSize access := by cases access <;> decide
  have hrepeatable := repeatable_of_goesBack hback hs
  have hfrozen (u : Source) : (bodyOf u).frozen = bodyOf u := by cases u <;> rfl
  let t := backTo s (Supply.drain (blockSize access) s).next
  have ht : s.Back t := Source.back_backTo (s.moved_drain _)
  have hfirst : ofBody access (bodyOf s)
      = ofSupply access (blockSize access) bodyOf (some (backTo s)) s := by
    rw [ofBody_moved s.moved_refl hs h, hback]
    rfl
  have hsecond : ofBody access (bodyOf t)
      = ofSupply access (blockSize access) bodyOf (some (backTo t)) t := by
    rw [ofBody_moved ht.1 hs h, goesBack_moved ht.1, hback]
    rfl
  obtain ⟨blocks, hblocks, -⟩ := ofSupply_ok (hfirst ▸ h)
  obtain ⟨again, hagain, -⟩ := Source.drain_again h0 hrepeatable hblocks
  have hsent : (ofBody access (bodyOf s)).next.sent.frozen = bodyOf t := by
    rw [hfirst, ofSupply_sent hblocks]
    exact hfrozen t
  have hsent' : (ofBody access (bodyOf t)).next.sent.frozen
      = bodyOf (backTo t (Supply.drain (blockSize access) t).next) := by
    rw [hsecond, ofSupply_sent hagain]
    exact hfrozen _
  intro sent
  show (ofBody access (ofBody access (bodyOf s)).next.sent.frozen).next.sent.frozen.ReadsLike
    (ofBody access (bodyOf s)).next.sent.frozen
  rw [hsent, hsent']
  exact (Source.back_backTo (t.moved_drain _)).readsLike (ht.1.repeatable hrepeatable)

/-! ## Instead -/

/-- What was read goes out AS ITSELF. -/
theorem replay_settles (access : Access) (data : Bytes) :
    (ofBody access (replay access data)).next.sent.frozen.ReadsLike (replay access data) := by
  cases access with
  | sync =>
    let s : Source := .buffer (.ofBytes data)
    obtain ⟨blocks, hblocks, -⟩ := ofSupply_ok (ofBody_replay .sync data)
    obtain ⟨pos, hmoved⟩ := Source.moved_buffer (s.moved_drain readSize)
    have hsent : (ofBody .sync (replay .sync data)).next.sent
        = bodyOf (backTo s (Supply.drain readSize s).next) := ofSupply_sent hblocks
    rw [hsent, hmoved]
    exact .refl _
  | async =>
    obtain ⟨blocks, hblocks, hrest⟩ :=
      (Reader.reliable_ofBytes data).drain (by decide : 0 < Reader.blockSize) (by decide)
    obtain rfl : blocks.flatten = data := hrest
    have hsent : (ofBody .async (replay .async blocks.flatten)).next.sent
        = replay .async blocks.flatten := ofSupply_sent hblocks
    rw [hsent]
    exact .refl _

/-- Where what was read went out once, it goes out again. -/
theorem supply_settles {σ : Type} [Supply σ] {access : Access} {size : Nat} {wrap : σ → Body} {s : σ}
    {hash : String} (h : (ofSupply access size wrap none s).result = .ok hash) :
    let sent := (ofSupply access size wrap none s).next.sent.frozen
    (ofBody access sent).next.sent.frozen.ReadsLike sent := by
  obtain ⟨data, hdata, -⟩ := ofSupply_replays h
  have hfrozen : (replay access data).frozen = replay access data := by cases access <;> rfl
  intro sent
  show (ofBody access (ofSupply access size wrap none s).next.sent.frozen).next.sent.frozen.ReadsLike
    (ofSupply access size wrap none s).next.sent.frozen
  rw [hdata, hfrozen]
  exact replay_settles access data

/-! ## Any body -/

/-- A source goes one of the two ways. -/
theorem bodyOf_settles {access : Access} {s : Source} (hs : (bodyOf s).Repeatable) {hash : String}
    (h : (ofBody access (bodyOf s)).result = .ok hash) :
    let sent := (ofBody access (bodyOf s)).next.sent.frozen
    (ofBody access sent).next.sent.frozen.ReadsLike sent := by
  cases hback : goesBack access s with
  | true => exact source_settles hback hs h
  | false =>
    have hfirst : ofBody access (bodyOf s)
        = ofSupply access (blockSize access) bodyOf none s := by
      rw [ofBody_moved s.moved_refl hs h, hback]
      rfl
    rw [hfirst] at h ⊢
    exact supply_settles h

/-- **What a hashing sends** is sent again by the next one. -/
theorem ofBody_settles {access : Access} {body : Body} (hb : body.Repeatable) {hash : String}
    (h : (ofBody access body).result = .ok hash) :
    let sent := (ofBody access body).next.sent.frozen
    (ofBody access sent).next.sent.frozen.ReadsLike sent := by
  cases access with
  | sync =>
    cases body with
    | absent => exact .refl _
    | bytes data => exact .refl _
    | byteArray data => exact .refl _
    | parts items => exact replay_settles .sync items.flatten
    | buffer b => exact bodyOf_settles (s := .buffer b) trivial h
    | stream s => exact bodyOf_settles (s := .stream s) hb h
    | pieces p => exact bodyOf_settles (s := .pieces p) trivial h
    | series s =>
      have hread := ofBody_series h
      rw [hread] at h ⊢
      exact supply_settles h
    | reader origin r => exact nomatch h
    | seriesReader r => exact nomatch h
    | framed depth p => exact supply_settles (σ := Framed (Layer depth)) h
    | inert typeName => exact nomatch h
  | async =>
    cases body with
    | absent => exact .refl _
    | bytes data => exact .refl _
    | byteArray data => exact .refl _
    | parts items => exact nomatch h
    | buffer b => exact nomatch h
    | stream s => exact bodyOf_settles (s := .stream s) hb h
    | pieces p => exact bodyOf_settles (s := .pieces p) trivial h
    | series s =>
      have hread := ofBody_series h
      rw [hread] at h ⊢
      exact supply_settles h
    | reader origin r => exact supply_settles h
    | seriesReader r => exact supply_settles h
    | framed depth p => exact nomatch h
    | inert typeName => exact nomatch h

/-- **What a signing sends is left as it is** by the next one: where the payload is not hashed, it is not
touched at all. -/
theorem compute_settles {access : Access} {context : Context} {body : Body} (hb : body.Repeatable)
    {hash : String} (h : (compute access context body).result = .ok hash) :
    let sent := (compute access context body).next.sent.frozen
    (compute access context sent).next.sent.frozen.ReadsLike sent := by
  unfold compute at h ⊢
  cases hw : placeholder? context with
  | some word =>
    have hfrozen : body.frozen.frozen = body.frozen := by cases body <;> rfl
    intro sent
    show body.frozen.frozen.ReadsLike body.frozen
    rw [hfrozen]
    exact .refl _
  | none =>
    rw [hw] at h
    exact ofBody_settles hb h

/-- A payload is hashed BY TWO FLAGS of the context, and by nothing else in it. -/
theorem compute_congr {context other : Context}
    (hsigning : other.payloadSigning = context.payloadSigning)
    (hchunked : other.chunkedEncoding = context.chunkedEncoding) (access : Access) (body : Body) :
    compute access other body = compute access context body := by
  have hword : placeholder? other = placeholder? context := by
    unfold placeholder? Context.usesChunks
    rw [hsigning, hchunked]
  unfold compute
  rw [hword]

end PayloadHash

end SigV4
