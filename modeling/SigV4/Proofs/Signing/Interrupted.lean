/-
  A signing that is INTERRUPTED: what becomes of the body when its source fails.

  1. **One pull** — a pull that delivers moves the place on, a pull that fails leaves it (`pull_some`,
     `pull_error`).
  2. **Draining** — so a draining that fails stands behind what it delivered before, and is back where it
     began exactly if the FIRST pull failed (`interrupted_drain`).
  3. **Hashing** — the hash of a body that can be put back is made by draining it, and the way back is gone
     only behind the last block (`compute_result`, `compute_interrupted`).
  4. **Signing** — so a signing that fails leaves the body as the draining left it, and whoever signs the
     request again signs the hash of the rest (`Signer.sign_interrupted`).  `Stream.fitful` is a source
     where that is not the hash of the whole.

  The crux is that the place only grows: no later block can bring it back.
-/
import SigV4.Proofs.Signing.Sent

namespace SigV4

/-! ## One pull -/

theorem Bytes.nonempty?_eq_some {bs delivered : Bytes} (h : nonempty? bs = some delivered) :
    bs = delivered ∧ 0 < bs.length := by
  cases bs with
  | nil => exact nomatch h
  | cons b bs => exact ⟨Option.some.inj h, Nat.succ_pos _⟩

namespace Source

/-- A pull that delivers takes what it delivers, and MOVES THE PLACE ON. -/
theorem pull_some {size : Nat} {s : Source} {bs : Bytes}
    (h : (s.pull size).result = .ok (some bs)) :
    bs ++ (s.pull size).next.rest = s.rest ∧ s.place < (s.pull size).next.place := by
  cases s with
  | buffer b =>
    simp only [pull] at h ⊢
    split at h
    · rename_i read next hr
      obtain ⟨-, hnext, hrest⟩ := Buffer.read_eq_ok hr
      obtain ⟨rfl, hpos⟩ := Bytes.nonempty?_eq_some (Except.ok.inj h)
      refine ⟨hrest, ?_⟩
      show b.pos < next.pos
      rw [hnext]
      exact Nat.lt_add_of_pos_right hpos
    · cases h
  | stream s =>
    obtain ⟨read, hr, hsome⟩ := ok_of_map_ok h
    obtain ⟨rfl, hpos⟩ := Bytes.nonempty?_eq_some hsome
    refine ⟨(Stream.read_eq_ok hr).2, ?_⟩
    show s.pos < (s.read _).2.pos
    unfold Stream.read at hr ⊢
    split at hr
    · cases hr
    · rename_i hf
      rw [if_neg hf]
      obtain rfl := Except.ok.inj hr
      exact Nat.lt_add_of_pos_right hpos
  | pieces p =>
    have htakes := p.takes_pull
    have hr : p.pull.result = .ok (some bs) := h
    unfold Outcome.Takes at htakes
    rw [hr] at htakes
    refine ⟨htakes, ?_⟩
    show p.pulled < p.pull.next.pulled
    obtain ⟨-, hpull⟩ | ⟨part, -, -, hpull⟩ | ⟨-, -, hpull⟩ := p.pull_cases
    · rw [hpull] at hr
      cases hr
    · rw [hpull]
      exact Nat.lt_succ_self p.pulled
    · rw [hpull] at hr
      cases hr

/-- A pull that fails takes nothing, and LEAVES THE PLACE. -/
theorem pull_error {size : Nat} {s : Source} {e : Fault} (h : (s.pull size).result = .error e) :
    (s.pull size).next.rest = s.rest ∧ (s.pull size).next.place = s.place := by
  cases s with
  | buffer b =>
    simp only [pull] at h ⊢
    split at h
    · cases h
    · exact ⟨rfl, rfl⟩
  | stream s =>
    have hr : (s.read (some (size : Int))).1 = .error e := error_of_map_error h
    refine ⟨Stream.read_eq_error hr, ?_⟩
    show (s.read _).2.pos = s.pos
    unfold Stream.read at hr ⊢
    split at hr
    · rename_i hf
      rw [if_pos hf]
      rfl
    · cases hr
  | pieces p =>
    have hr : p.pull.result = .error e := h
    show p.pull.next.rest.flatten = p.rest.flatten ∧ p.pull.next.pulled = p.pulled
    obtain ⟨-, hpull⟩ | ⟨part, -, -, hpull⟩ | ⟨-, -, hpull⟩ := p.pull_cases
    · rw [hpull]
      exact ⟨rfl, rfl⟩
    · rw [hpull] at hr
      cases hr
    · rw [hpull] at hr
      cases hr

/-! ## Draining -/

/-- **What a draining leaves that failed:** the source, moved on; the blocks that were delivered before are
missing, that of the first pull among them; and it is back exactly if the first pull failed. -/
structure Interrupted (size : Nat) (e : Fault) (s left : Source) : Prop where
  moved : s.Moved left
  missing : ∃ blocks : List Bytes, blocks.flatten ++ left.rest = s.rest
    ∧ ∀ bs, (Supply.pull size s).result = .ok (some bs) → blocks.head? = some bs
  back_iff : s.Back left ↔ (Supply.pull size s).result = .error e

/-- A draining that fails delivered some blocks before, each of which moved the place on. -/
theorem drain_error {size : Nat} {s : Source} {e : Fault}
    (h : (Supply.drain size s).result = .error e) :
    ∃ blocks : List Bytes, blocks.flatten ++ (Supply.drain size s).next.rest = s.rest
      ∧ s.place + blocks.length ≤ (Supply.drain size s).next.place
      ∧ ((∃ bs, (Supply.pull size s).result = .ok (some bs) ∧ blocks.head? = some bs)
        ∨ (Supply.pull size s).result = .error e
          ∧ (Supply.drain size s).next.place = s.place) := by
  fun_induction Supply.drain size s with
  | case1 s bs next notices hp ih =>
    have hr : (s.pull size).result = .ok (some bs) := congrArg Outcome.result hp
    have hnext : (s.pull size).next = next := congrArg Outcome.next hp
    obtain ⟨hrest, hplace⟩ := pull_some hr
    rw [hnext] at hrest hplace
    simp only [Outcome.result_after, Outcome.result_map] at h
    obtain ⟨blocks, hblocks, hle, -⟩ := ih (error_of_map_error h)
    simp only [Outcome.next_after, Outcome.next_map]
    refine ⟨bs :: blocks, ?_, ?_, Or.inl ⟨bs, hr, rfl⟩⟩
    · rw [List.flatten_cons, List.append_assoc, hblocks, hrest]
    · rw [List.length_cons]
      omega
  | case2 s next notices hp => cases h
  | case3 s fault next notices hp =>
    have hr : (s.pull size).result = .error fault := congrArg Outcome.result hp
    have hnext : (s.pull size).next = next := congrArg Outcome.next hp
    obtain ⟨hrest, hplace⟩ := pull_error hr
    rw [hnext] at hrest hplace
    obtain rfl := Except.error.inj h
    exact ⟨[], hrest, Nat.le_of_eq hplace.symm, Or.inr ⟨hr, hplace⟩⟩

/-- **A draining that fails,** at whatever pull. -/
theorem interrupted_drain {size : Nat} {s : Source} {e : Fault}
    (h : (Supply.drain size s).result = .error e) :
    s.Interrupted size e (Supply.drain size s).next := by
  have hmoved := s.moved_drain size
  obtain ⟨blocks, hrest, hplace, ⟨bs, hfirst, hhead⟩ | ⟨hfirst, hback⟩⟩ := drain_error h
  · refine ⟨hmoved, ⟨blocks, hrest, ?_⟩, ?_⟩
    · intro bs' hbs'
      rw [hfirst] at hbs'
      rw [hhead, Option.some.inj (Except.ok.inj hbs')]
    · constructor
      · rintro ⟨-, hback⟩
        -- a block was delivered, so the place is another
        have hlength : 0 < blocks.length := List.length_pos_of_mem (List.mem_of_head? hhead)
        omega
      · intro hfails
        rw [hfirst] at hfails
        exact nomatch hfails
  · refine ⟨hmoved, ⟨blocks, hrest, ?_⟩, fun _ => hfirst, fun _ => ⟨hmoved, hback⟩⟩
    intro bs hbs
    rw [hfirst] at hbs
    exact nomatch hbs

end Source

/-! ## Hashing -/

/-- A body that can be put back still can be when it was moved. -/
theorem Body.Rewindable.moved {access : Access} {s t : Source}
    (h : (PayloadHash.bodyOf s).Rewindable access) (hmoved : s.Moved t) :
    (PayloadHash.bodyOf t).Rewindable access := by
  cases s with
  | buffer b =>
    obtain ⟨pos, rfl⟩ := Source.moved_buffer hmoved
    cases access <;> exact h
  | stream a =>
    obtain ⟨c, rfl, -, -, -, haccess, hseeking⟩ := Source.moved_stream hmoved
    cases access <;> exact ⟨haccess.trans h.1, hseeking.trans h.2⟩
  | pieces p =>
    obtain ⟨pulled, rfl⟩ := Source.moved_pieces hmoved
    cases access <;> exact h

namespace PayloadHash

/-- A body that can be put back is drained in the blocks of its signer. -/
theorem ofBody_rewindable {access : Access} {s : Source} (h : (bodyOf s).Rewindable access) :
    ofBody access (bodyOf s)
      = ofSupply access (blockSize access) bodyOf (some (backTo s)) s := by
  cases s with
  | buffer b =>
    cases access with
    | sync => rfl
    | async => exact h.elim
  | stream s =>
    have hkind : s.access = access ∧ s.seeking = some access := by cases access <;> exact h
    obtain ⟨haccess, hseeking⟩ := hkind
    cases access with
    | sync =>
      have hway : syncWayBack s = some (backTo (.stream s)) := by
        unfold syncWayBack
        rw [hseeking]
      rw [← hway]
      exact if_neg (by simp [haccess])
    | async =>
      have hway : wayBack (decide (s.seeking = some .async)) (.stream s)
          = some (backTo (.stream s)) := by
        rw [decide_eq_true hseeking]
        rfl
      rw [← hway]
      exact if_pos haccess
  | pieces p =>
    cases access with
    | sync =>
      obtain ⟨hsync, hseekable⟩ := h
      have hway : wayBack p.seekable (.pieces p) = some (backTo (.pieces p)) := by
        rw [hseekable]
        rfl
      rw [← hway]
      exact if_neg (by simp [hsync])
    | async => exact h.elim

section Rewindable

variable {access : Access} {context : Context} {s : Source}
  (hsigning : context.payloadSigning = true) (hplain : context.usesChunks = false)
  (hback : (bodyOf s).Rewindable access)

include hsigning hplain hback

/-- A hashing succeeds where the draining does. -/
theorem compute_result :
    (compute access context (bodyOf s)).result = (Supply.drain (blockSize access) s).result.map
      fun blocks => Sha256.hexDigest blocks.flatten := by
  rw [compute_of_plain hsigning hplain, ofBody_rewindable hback, ofSupply_result]

/-- A hashing that fails leaves the body AS THE DRAINING LEFT IT. -/
theorem compute_interrupted {e : Fault} (h : (Supply.drain (blockSize access) s).result = .error e) :
    (compute access context (bodyOf s)).next
      = ⟨bodyOf (Supply.drain (blockSize access) s).next, none⟩ := by
  rw [compute_of_plain hsigning hplain, ofBody_rewindable hback, ofSupply, h]

/-- An honest source that does not fail has the hash of what is left of it. -/
theorem compute_steady (hhonest : s.Honest) (hsteady : Supply.Steady (blockSize access) s) :
    (compute access context (bodyOf s)).result = .ok (Sha256.hexDigest s.rest) := by
  obtain ⟨blocks, hb⟩ := hsteady
  have hh : Stock.Honest s := hhonest
  have hrest : blocks.flatten = s.rest := Supply.flatten_drain (blockSize_pos access) hh hb
  rw [compute_result hsigning hplain hback, hb, ← hrest]
  rfl

end Rewindable

end PayloadHash

/-! ## A source that fails at its second read -/

namespace Stream

/-- Five bytes that come two at a time, from a source whose second read fails. -/
def fitful : Stream where
  access := .sync
  seeking := some .sync
  data := [104, 101, 108, 108, 111]
  limit := fun _ => some 2
  fails := fun k => k == 1

/-- What is left of it when the second read has failed. -/
def fitfulLeft : Stream := { fitful with pos := 2, reads := [some 65536, some 65536] }

theorem drain_fitful : (Supply.drain (PayloadHash.blockSize .sync) (Source.stream fitful)).result
      = .error .connectionReset
    ∧ (Supply.drain (PayloadHash.blockSize .sync) (Source.stream fitful)).next
      = .stream fitfulLeft := by
  let between : Stream := { fitful with pos := 2, reads := [some 65536] }
  have hfirst : Supply.pull (PayloadHash.blockSize .sync) (Source.stream fitful)
      = ⟨.ok (some [104, 101]), .stream between, []⟩ := rfl
  have hsecond : Supply.pull (PayloadHash.blockSize .sync) (Source.stream between)
      = ⟨.error .connectionReset, .stream fitfulLeft, []⟩ := rfl
  rw [Supply.drain_eq, hfirst]
  dsimp only
  rw [Supply.drain_eq, hsecond]
  exact ⟨rfl, rfl⟩

/-- What is left can be read to its end. -/
theorem steady_fitfulLeft :
    Supply.Steady (PayloadHash.blockSize .sync) (Source.stream fitfulLeft) := by
  let reads (n : Nat) : List (Option Int) := List.replicate n (some 65536)
  have hthird : Supply.pull (PayloadHash.blockSize .sync) (Source.stream fitfulLeft)
      = ⟨.ok (some [108, 108]), .stream { fitful with pos := 4, reads := reads 3 }, []⟩ := rfl
  have hfourth : Supply.pull (PayloadHash.blockSize .sync)
        (Source.stream { fitful with pos := 4, reads := reads 3 })
      = ⟨.ok (some [111]), .stream { fitful with pos := 5, reads := reads 4 }, []⟩ := rfl
  have hlast : Supply.pull (PayloadHash.blockSize .sync)
        (Source.stream { fitful with pos := 5, reads := reads 4 })
      = ⟨.ok none, .stream { fitful with pos := 5, reads := reads 5 }, []⟩ := rfl
  refine ⟨[[108, 108], [111]], ?_⟩
  rw [Supply.drain_eq, hthird]
  dsimp only
  rw [Supply.drain_eq, hfourth]
  dsimp only
  rw [Supply.drain_eq, hlast]
  rfl

end Stream

section Fitful

variable {s : Signer} {now : Instant} {ps : Properties} {identity : Identity} {standing : Standing}
  {context : Context} {request : Request}

/-- To sign a body that fails at its second read fails, and LEAVES IT BEHIND THE FIRST. -/
theorem Signer.sign_fitful (hsync : s.access = .sync)
    (hidentity : identity.standing now = .ok (some standing))
    (hknown : standing.isAnonymous.isSet = false) (hvalid : standing.isExpired.isSet = false)
    (hcontext : Context.resolve s.config ps now = .ok context)
    (hsigning : context.payloadSigning = true) (hplain : context.usesChunks = false)
    (hbody : request.body = .stream .fitful) :
    (s.sign now ps identity request).result = .error .connectionReset
      ∧ (s.sign now ps identity request).next = .stream .fitfulLeft := by
  have hbody' : request.body = PayloadHash.bodyOf (.stream .fitful) := hbody
  have hback : (PayloadHash.bodyOf (.stream .fitful)).Rewindable .sync := ⟨rfl, rfl⟩
  obtain ⟨hresult, hnext⟩ :=
    Signing.signIn_of_plain hplain s.access standing.credentials request
  obtain ⟨hdrain, hleft⟩ := Stream.drain_fitful
  rw [hsync, hbody', PayloadHash.compute_result hsigning hplain hback, hdrain] at hresult
  rw [hsync, hbody', PayloadHash.compute_interrupted hsigning hplain hback hdrain, hleft] at hnext
  rw [sign_of_plain hidentity hknown hvalid hcontext hplain, hsync]
  exact ⟨hresult, hnext⟩

end Fitful

/-! ## Signing -/

/-- **AN INTERRUPTED SIGNING LEAVES THE BODY WHERE THE FAILURE MET IT.**  If the source of a body that can be
put back fails while it is hashed, the body is back at its place exactly if the first read failed; if any
read had delivered before, what it delivered is missing.  The canonical form fails alike.  Whoever signs
the request again, and can read what is left, signs the hash of the rest.  A date, a region or a service that
is no text makes a signing fail as well, but only behind the hash. -/
theorem Signer.sign_interrupted {s : Signer} {now : Instant} {ps : Properties} {identity : Identity}
    {standing : Standing} {context : Context} {request : Request} {source : Source} {e : Fault}
    (hidentity : identity.standing now = .ok (some standing))
    (hknown : standing.isAnonymous.isSet = false) (hvalid : standing.isExpired.isSet = false)
    (hcontext : Context.resolve s.config ps now = .ok context)
    (hsigning : context.payloadSigning = true) (hplain : context.usesChunks = false)
    (hbody : request.body = PayloadHash.bodyOf source) (hback : request.body.Rewindable s.access)
    (hsign : (s.sign now ps identity request).result = .error e) (hsource : e ≠ .notText) :
    ∃ left : Source,
      (s.sign now ps identity request).next = PayloadHash.bodyOf left
        ∧ source.Interrupted (PayloadHash.blockSize s.access) e left
        ∧ (s.canonicalText now ps request).result = .error e
        ∧ (s.canonicalText now ps request).next.given = PayloadHash.bodyOf left
        ∧ (context.scope.isSpelled = true → source.Honest →
            Supply.Steady (PayloadHash.blockSize s.access) left →
            ∃ (signed : Request) (canonical : CanonicalRequest),
              (s.sign now ps identity { request with body := PayloadHash.bodyOf left }).result
                  = .ok (.signed signed)
                ∧ Signing.Carries context standing.credentials canonical signed
                ∧ Text.lastLine canonical.text = Sha256.hexDigest left.rest) := by
  have hsignIn := sign_of_plain hidentity hknown hvalid hcontext hplain
  obtain ⟨hresult, hnext⟩ :=
    Signing.signIn_of_plain hplain s.access standing.credentials request
  rw [hsignIn] at hsign ⊢
  have hrewindable : (PayloadHash.bodyOf source).Rewindable s.access := hbody ▸ hback
  -- before a key is made nothing but the hash can fail, and the hash only where the draining does
  have hhash : (PayloadHash.compute s.access context request.body).result = .error e := by
    rw [hresult] at hsign
    cases hcompute : (PayloadHash.compute s.access context request.body).result with
    | error fault =>
      rw [hcompute] at hsign
      exact congrArg Except.error (Except.error.inj hsign)
    | ok hash =>
      rw [hcompute] at hsign
      change (if context.scope.isSpelled then _ else _) = _ at hsign
      split at hsign
      · cases hsign
      · exact absurd (Except.error.inj hsign).symm hsource
  have hcanonical := canonicalText_of_error hcontext hhash
  rw [hbody] at hhash hnext hcanonical
  rw [PayloadHash.compute_result hsigning hplain hrewindable] at hhash
  have hdrain := error_of_map_error hhash
  have hleft := PayloadHash.compute_interrupted hsigning hplain hrewindable hdrain
  have hinterrupted := Source.interrupted_drain hdrain
  let left := (Supply.drain (PayloadHash.blockSize s.access) source).next
  refine ⟨left, ?_, hinterrupted, hcanonical.1, ?_, fun hspelled hhonest hsteady => ?_⟩
  · rw [hnext, hleft]
  · rw [hcanonical.2, hleft]
  · -- the retry is a plain signing of the same source at the place where it was left
    have hh : left.Honest := Supply.drain_keeps Source.Honest (Source.honest_pull _) hhonest
    let again : Request := { request with body := PayloadHash.bodyOf left }
    have hretry : (PayloadHash.compute s.access context again.body).result
        = .ok (Sha256.hexDigest left.rest) :=
      PayloadHash.compute_steady hsigning hplain (hrewindable.moved hinterrupted.moved) hh hsteady
    obtain ⟨signed, hsigned, -, hcarries⟩ :=
      Signing.signIn_carries hplain hspelled standing.credentials hretry
    rw [hsignIn]
    exact ⟨signed, _, hsigned, hcarries, CanonicalRequest.lastLine_text rfl⟩

/-- The body of `fitful` is left behind its second byte, and its last three are signed in the place of five. -/
theorem Signer.sign_interrupted_fitful :
    let s : Signer := ⟨.sync, .service⟩
    let ps : Properties := ⟨[("region", .text "us-east-1"), ("service", .text "iam"),
      ("date", .text "20150830T123600Z")]⟩
    let credentials : Credentials := ⟨"AKIDEXAMPLE", "wJalrXUtnFEMI", none⟩
    let now : Instant := ⟨⟨2015, 8, 30⟩, 12, 36, 0, 0, some 0⟩
    let context : Context := ⟨⟨"20150830", "us-east-1", "iam", "aws4_request", true, true⟩,
      "20150830T123600Z", .header, true, false, 65536, false, true, true, 3600⟩
    let request : Request := ⟨⟨"https", "example.com", none, none, none, none⟩, "PUT", .empty,
      .stream .fitful⟩
    ((Identity.keys credentials none).standing now
          = .ok (some ⟨credentials, none, .flag false, .flag false⟩)
        ∧ Context.resolve s.config ps now = .ok context
        ∧ context.payloadSigning = true ∧ context.usesChunks = false
        ∧ request.body = PayloadHash.bodyOf (.stream .fitful) ∧ request.body.Rewindable s.access
        ∧ (s.sign now ps (.keys credentials none) request).result = .error .connectionReset
        ∧ Fault.connectionReset ≠ .notText)
      ∧ ¬(Source.stream .fitful).Back (.stream .fitfulLeft)
      ∧ (s.canonicalText now ps request).result = .error .connectionReset
      ∧ ∃ (signed : Request) (canonical : CanonicalRequest),
        (s.sign now ps (.keys credentials none) { request with body := .stream .fitfulLeft }).result
            = .ok (.signed signed)
          ∧ Signing.Carries context credentials canonical signed
          ∧ Text.lastLine canonical.text = Sha256.hexDigest [108, 108, 111] := by
  intro s ps credentials now context request
  have hstanding : (Identity.keys credentials none).standing now
      = .ok (some ⟨credentials, none, .flag false, .flag false⟩) := rfl
  have hcontext : Context.resolve s.config ps now = .ok context := rfl
  have hbody : request.body = PayloadHash.bodyOf (.stream .fitful) := rfl
  have hback : request.body.Rewindable s.access := ⟨rfl, rfl⟩
  obtain ⟨hsign, hnext⟩ := sign_fitful rfl hstanding rfl rfl hcontext rfl rfl hbody
  obtain ⟨left, hleft, hinterrupted, hcanonical, -, hretry⟩ :=
    sign_interrupted hstanding rfl rfl hcontext rfl rfl hbody hback hsign nofun
  obtain rfl : left = .stream .fitfulLeft := by
    rw [hnext] at hleft
    cases left with
    | stream t => exact congrArg Source.stream (Body.stream.inj hleft).symm
    | _ => exact nomatch hleft
  have hhonest : (Source.stream .fitful).Honest := fun _ => nofun
  obtain ⟨signed, canonical, h1, h2, h3⟩ := hretry rfl hhonest Stream.steady_fitfulLeft
  refine ⟨⟨hstanding, hcontext, rfl, rfl, hbody, hback, hsign, nofun⟩, fun h => ?_, hcanonical,
    signed, canonical, h1, h2, h3⟩
  -- its first read did not fail
  exact nomatch hinterrupted.back_iff.mp h

/-- A body that can be sought is NOT PUT BACK when its source fails behind the first read. -/
theorem Signer.sign_fitful_not_back :
    let s : Signer := ⟨.sync, .service⟩
    let ps : Properties := ⟨[("region", .text "us-east-1"), ("service", .text "iam"),
      ("date", .text "20150830T123600Z")]⟩
    let credentials : Credentials := ⟨"AKIDEXAMPLE", "wJalrXUtnFEMI", none⟩
    let now : Instant := ⟨⟨2015, 8, 30⟩, 12, 36, 0, 0, some 0⟩
    let request : Request := ⟨⟨"https", "example.com", none, none, none, none⟩, "PUT", .empty,
      .stream .fitful⟩
    request.body.Rewindable s.access
      ∧ (s.sign now ps (.keys credentials none) request).result = .error .connectionReset
      ∧ ¬request.body.Back (s.sign now ps (.keys credentials none) request).next := by
  intro s ps credentials now request
  let context : Context := ⟨⟨"20150830", "us-east-1", "iam", "aws4_request", true, true⟩,
    "20150830T123600Z", .header, true, false, 65536, false, true, true, 3600⟩
  have hstanding : (Identity.keys credentials none).standing now
      = .ok (some ⟨credentials, none, .flag false, .flag false⟩) := rfl
  have hcontext : Context.resolve s.config ps now = .ok context := rfl
  have hbody : request.body = .stream .fitful := rfl
  obtain ⟨hsign, hnext⟩ := sign_fitful rfl hstanding rfl rfl hcontext rfl rfl hbody
  refine ⟨⟨rfl, rfl⟩, hsign, ?_⟩
  rintro ⟨before, after, hbefore, hafter, -, hplace⟩
  rw [hnext] at hafter
  cases before with
  | stream a =>
    cases after with
    | stream c =>
      have ha : Stream.fitful.pos = a.pos := congrArg Stream.pos (Body.stream.inj hbefore)
      have hc : Stream.fitfulLeft.pos = c.pos := congrArg Stream.pos (Body.stream.inj hafter)
      have hpos : c.pos = a.pos := hplace
      exact absurd (hc.trans (hpos.trans ha.symm)) (by decide)
    | _ => exact nomatch hafter
  | _ => exact nomatch hbefore

end SigV4
