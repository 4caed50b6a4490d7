/-
  EXPOSURE: a wrong declared length is always found out, AND FOR GOOD.

  1. **Uses** — `Body.Use` is a read of any size, or the next item of an iteration HOWEVER FAR THAT HAS
     COME, so that iterations which are kept, mixed and given up are all covered.  `useAll` runs them.
  2. **One use** (`use_strayed`), then a run of them (`useAll_strays`) — what each leaves is a misdeclared
     payload again.
  3. **The body** — `frame_exposed`: whatever is done with a body that is framed with a length that is not
     its own, `Exposed` holds of it; and `Caught`, if its source does not fail.
-/
import SigV4.Payload.Cursor
import SigV4.Proofs.Payload.Delivery
import SigV4.Proofs.Payload.Misdeclared

namespace SigV4.Body

/-! ## Uses -/

/-- A use that is made of a framed payload. -/
inductive Use where
  /-- A read of so many bytes, of all without a size or with a negative one. -/
  | read (size : Option Int)
  /-- The next item of an iteration that has come so far. -/
  | item (stage : Stage)

/-- **The answer to a use:** the bytes that it delivers, or its failure. -/
def use (body : Body) : Use → Outcome Body Bytes
  | .read size => (body.read? size).getD ⟨.error .sourceUnusable, body, []⟩
  | .item stage => (((Cursor.frames stage).next body).within Prod.snd).map (·.getD [])

/-- **The answers to uses,** one after the other, and the body after them. -/
def useAll : List Use → Body → List (Except Fault Bytes) × Body
  | [], body => ([], body)
  | u :: uses, body =>
    let more := useAll uses (body.use u).next
    ((body.use u).result :: more.1, more.2)

/-- The bytes that answers deliver. -/
def delivered (answers : List (Except Fault Bytes)) : Bytes :=
  answers.flatMap fun answer => answer.toOption.getD []

variable {m : Misdeclared} {depth : Nat}

open Framed in
/-- What is known of a use, by its outcome. -/
def Strayed (m : Misdeclared) (spent : Bytes) (p : Framed (Layer depth))
    (o : Outcome (Framed (Layer depth)) Bytes) : Prop :=
  Follows p o.next ∧ match o.result with
    | .ok bs => o.next.Strays m (spent ++ bs)
    | .error e => o.next.Strays m spent ∧ Complains m p o.next e

theorem nextFrame_strayed {spent : Bytes} {p : Framed (Layer depth)} (h : p.Strays m spent) :
    Strayed m spent p (p.nextFrame.map (·.getD [])) := by
  obtain ⟨hf, -, hr⟩ := Framed.nextFrame_strays h
  refine ⟨hf, ?_⟩
  rw [Outcome.result_map, Outcome.next_map]
  cases hn : p.nextFrame.result with
  | error e =>
    rw [hn] at hr
    exact hr
  | ok item =>
    rw [hn] at hr
    cases item with
    | none => exact hr.elim
    | some frame => exact hr.2

theorem firstItem_strayed {spent : Bytes} {p : Framed (Layer depth)} (h : p.Strays m spent) :
    Strayed m spent p ((Cursor.firstItem p).map (·.getD [])) := by
  unfold Cursor.firstItem
  by_cases hp : p.pending.isEmpty = true
  · rw [if_pos hp]
    exact nextFrame_strayed h
  · rw [if_neg hp]
    refine ⟨Framed.Follows.pend p [], h.pend ?_⟩
    rw [List.append_nil]
    exact List.Subperm.refl _

/-- **One use of a misdeclared payload.** -/
theorem use_strayed {spent : Bytes} {p : Framed (Layer depth)} (h : p.Strays m spent) (u : Use) :
    ∃ o, (framed depth p).use u = o.within (framed depth) ∧ Strayed m spent p o := by
  cases u with
  | read size =>
    refine ⟨p.read size, rfl, ?_⟩
    cases hw : Framed.isWhole size with
    | true =>
      obtain ⟨e, he, hf, hs, hc⟩ := Framed.items_strays h
      rw [Framed.read_whole hw]
      refine ⟨hf, ?_⟩
      rw [Outcome.result_map, he]
      exact ⟨hs, hc⟩
    | false =>
      obtain ⟨hf, hr⟩ := Framed.readSized_strays (size.getD 0).toNat h
      rw [Framed.read_sized hw]
      refine ⟨hf, ?_⟩
      cases ho : (p.readSized (size.getD 0).toNat).result with
      | error e =>
        rw [ho] at hr
        exact hr
      | ok bs =>
        rw [ho] at hr
        exact hr.2
  | item stage =>
    cases stage with
    | fresh => exact ⟨_, rfl, firstItem_strayed h⟩
    | running => exact ⟨_, rfl, nextFrame_strayed h⟩
    | ended =>
      refine ⟨⟨.ok [], p, []⟩, rfl, Framed.Follows.refl p, ?_⟩
      show p.Strays m (spent ++ [])
      rwa [List.append_nil]

/-- **A run of uses:** what it delivers was signed, and once a use has failed for the length's sake no
frame is made any more. -/
theorem useAll_strays (uses : List Use) {spent : Bytes} {p : Framed (Layer depth)}
    (h : p.Strays m spent) :
    ∃ q : Framed (Layer depth), (useAll uses (framed depth p)).2 = framed depth q
      ∧ q.Strays m (spent ++ delivered (useAll uses (framed depth p)).1)
      ∧ Framed.Follows p q
      ∧ (p.Steady → ∀ e, .error e ∈ (useAll uses (framed depth p)).1 →
          e.BlamesLength m.declared ∧ q.Overdue) := by
  induction uses generalizing p spent with
  | nil =>
    refine ⟨p, rfl, ?_, Framed.Follows.refl p, fun _ e he => nomatch he⟩
    show p.Strays m (spent ++ [])
    rwa [List.append_nil]
  | cons u uses ih =>
    obtain ⟨o, ho, hf, hr⟩ := use_strayed h u
    unfold useAll
    rw [ho, Outcome.result_within, Outcome.next_within]
    cases hres : o.result with
    | ok bs =>
      rw [hres] at hr
      obtain ⟨q, hq, hs, hf', herr⟩ := ih hr
      refine ⟨q, hq, ?_, hf.trans hf', fun hsteady e he => ?_⟩
      · show q.Strays m (spent ++ (bs ++ delivered _))
        rw [← List.append_assoc]
        exact hs
      · rcases List.mem_cons.mp he with he | he
        · cases he
        · exact herr (hf.steady hsteady) e he
    | error e =>
      rw [hres] at hr
      obtain ⟨q, hq, hs, hf', herr⟩ := ih hr.1
      refine ⟨q, hq, hs, hf.trans hf', fun hsteady e' he => ?_⟩
      rcases List.mem_cons.mp he with he | he
      · obtain ⟨hblame, hover⟩ := hr.2 hsteady
        cases he
        exact ⟨hblame, hf'.overdue hover⟩
      · exact herr (hf.steady hsteady) e' he

/-- A run of reads goes on behind the first one if that succeeds. -/
theorem readEach_framed_cons (size : Nat) (sizes : List Nat) (p : Framed (Layer depth)) :
    (readEach (size :: sizes) (framed depth p)).result
      = match (p.readSized size).result with
        | .ok bs => (readEach sizes (framed depth (p.readSized size).next)).result.map (bs :: ·)
        | .error e => .error e := by
  have hread : p.read (some (size : Int)) = p.readSized size :=
    Framed.read_sized (by simp [Framed.isWhole]) p
  show (((p.read (some (size : Int))).within (framed depth)).andThen _).result = _
  rw [hread, Outcome.andThen, Outcome.result_within]
  cases (p.readSized size).result with
  | error e => rfl
  | ok bs => rfl

/-- A run of reads by size delivers as many bytes as it asks for, or fails for the length's sake. -/
theorem readEach_strays (sizes : List Nat) {spent : Bytes} {p : Framed (Layer depth)}
    (h : p.Strays m spent) (hs : p.Steady) :
    match (readEach sizes (framed depth p)).result with
      | .ok out => out.flatten.length = sizes.sum
          ∧ ∃ q : Framed (Layer depth), q.Strays m (spent ++ out.flatten)
      | .error e => e.BlamesLength m.declared := by
  induction sizes generalizing p spent with
  | nil =>
    refine ⟨rfl, p, ?_⟩
    show p.Strays m (spent ++ [])
    rwa [List.append_nil]
  | cons size sizes ih =>
    obtain ⟨hf, hr⟩ := Framed.readSized_strays size h
    rw [readEach_framed_cons]
    cases ho : (p.readSized size).result with
    | error e =>
      rw [ho] at hr
      exact (hr.2 hs).1
    | ok bs =>
      rw [ho] at hr
      have hrest := ih hr.2 (hf.steady hs)
      cases hm : (readEach sizes (framed depth (p.readSized size).next)).result with
      | error e =>
        rw [hm] at hrest
        exact hrest
      | ok out =>
        rw [hm] at hrest
        obtain ⟨hlen, q, hq⟩ := hrest
        refine ⟨?_, q, ?_⟩
        · show (bs :: out).flatten.length = _
          rw [List.flatten_cons, List.length_append, hlen, hr.1, List.sum_cons]
        · show q.Strays m (spent ++ (bs :: out).flatten)
          rw [List.flatten_cons, ← List.append_assoc]
          exact hq

/-! ## The body -/

/-- **What the uses of a misdeclared payload come to,** by their answers and by the payload after them. -/
structure Exposed (signer : ChunkSigner) (payload : Bytes) (declared total : Int)
    (answers : List (Except Fault Bytes)) (q : Framed (Layer depth)) : Prop where
  /-- The empty chunk is not signed. -/
  unended : q.signer.state ≠ .terminal
  /-- What is signed is a first part of the payload, and not more than was declared; what was delivered,
  and what is pending, was signed. -/
  signed : ∃ parts : List Bytes, q.signer = parts.foldl ChunkSigner.advance signer
    ∧ parts.flatten <+: payload ∧ (parts.flatten.length : Int) ≤ declared
    ∧ List.Subperm (delivered answers ++ q.pending) (signer.wireOf parts)
  /-- Less is delivered than was announced. -/
  less : ((delivered answers).length : Int) < total
  /-- There is always one more frame to wait for. -/
  endless : q.nextFrame.result ≠ .ok none

/-- **What the uses of a misdeclared payload come to** if its source does not fail. -/
structure Caught (declared total : Int) (answers : List (Except Fault Bytes))
    (q : Framed (Layer depth)) : Prop where
  /-- Whoever reads everything is told of the length. -/
  whole : ∀ size : Option Int, Framed.isWhole size = true →
    ∃ o e, (framed depth q).read? size = some o ∧ o.result = .error e ∧ e.BlamesLength declared
  /-- So is whoever iterates to the end. -/
  iterated : ∃ o e, (framed depth q).items? = some o ∧ o.result = .error e
    ∧ e.BlamesLength declared
  /-- So is whoever reads by size as far as was announced. -/
  sized : ∀ sizes : List Nat, total ≤ ((delivered answers).length + sizes.sum : Nat) →
    ∃ e, ((framed depth q).readEach sizes).result = .error e ∧ e.BlamesLength declared
  /-- No use fails for any other reason. -/
  blamed : ∀ e, .error e ∈ answers → e.BlamesLength declared
  /-- Once a use has failed, NO FRAME IS MADE ANY MORE. -/
  forGood : ∀ e, .error e ∈ answers →
    ∃ e', q.nextFrame.result = .error e' ∧ e'.BlamesLength declared

/-- What was found out about a payload that has strayed. -/
theorem exposed_of_strays {m : Misdeclared} {answers : List (Except Fault Bytes)}
    {q : Framed (Layer depth)} (h : q.Strays m (delivered answers)) {n : Nat}
    (hn : m.declared = (n : Int)) :
    Exposed m.signer m.payload m.declared
      (Framing.rowLength m.size n + Framing.frameLength 0 : Nat) answers q := by
  have hless := h.less hn
  have hendless : q.nextFrame.result ≠ .ok none := by
    intro hnone
    have hr := (Framed.nextFrame_strays h).2.2
    rw [hnone] at hr
    exact hr
  obtain ⟨parts, refused, ha, hsigned⟩ := h
  exact ⟨ha.unended, ⟨parts, ha.signer, ha.isPrefix, ha.within, hsigned⟩, Int.ofNat_lt.mpr hless,
    hendless⟩

/-- What comes of a payload that has strayed, if its feed does not fail. -/
theorem caught_of_strays {m : Misdeclared} {answers : List (Except Fault Bytes)}
    {q : Framed (Layer depth)} (h : q.Strays m (delivered answers)) (hs : q.Steady)
    (herr : ∀ e, .error e ∈ answers → e.BlamesLength m.declared ∧ q.Overdue) {n : Nat}
    (hn : m.declared = (n : Int)) :
    Caught m.declared (Framing.rowLength m.size n + Framing.frameLength 0 : Nat) answers q := by
  obtain ⟨e, he, -, -, hblame⟩ := Framed.items_strays h
  refine ⟨fun size hsize => ⟨_, e, rfl, ?_, (hblame hs).1⟩, ⟨_, e, rfl, he, (hblame hs).1⟩, ?_,
    fun e he => (herr e he).1, fun e he => ?_⟩
  · show (q.read size).result = _
    rw [Framed.read_whole hsize, Outcome.result_map, he]
    rfl
  · intro sizes hfar
    have hr := readEach_strays sizes h hs
    cases ho : (readEach sizes (framed depth q)).result with
    | error e =>
      rw [ho] at hr
      exact ⟨e, rfl, hr⟩
    | ok out =>
      -- so many bytes would be more than there are
      rw [ho] at hr
      obtain ⟨hlen, r, hr⟩ := hr
      have hless := hr.less hn
      rw [List.length_append] at hless
      omega
  · obtain ⟨e', he', hblame'⟩ := Framed.nextFrame_overdue h (herr e he).2
    exact ⟨e', he', hblame' hs⟩

/-- A body that is framed with a length that is not its own has strayed from the start. -/
theorem frame_strays {body : Body} (h : body.Readable) (hh : body.Honest) {signer : ChunkSigner}
    (hsigner : signer.state ≠ .terminal) {size n : Nat} (hsize : 0 < size)
    (hwrong : (body.rest.length : Int) ≠ n) :
    ∃ (depth : Nat) (p : Framed (Layer depth)), body.frame signer size n = .ok (framed depth p)
      ∧ p.Strays ⟨signer, body.rest, size, n, hsize, hwrong⟩ []
      ∧ p.contentLength = (Framing.rowLength size n + Framing.frameLength 0 : Nat)
      ∧ (body.Unfailing size → p.Steady) := by
  have h0 : (size : Int) ≠ 0 := by omega
  obtain ⟨depth, feed, total, htotal, hframe, hfeed, hrest, hsteady⟩ :=
    frame_started h hh signer h0 n
  rw [Framing.totalLength_natCast hsize] at htotal
  refine ⟨depth, _, hframe, ⟨[], [], ?_, List.nil_subperm⟩, (Except.ok.inj htotal).symm,
    fun hu => Or.inr (hsteady _ hu)⟩
  refine ⟨⟨hsize, hfeed, nofun⟩, rfl, rfl, rfl, hsigner, Int.natCast_nonneg n, ?_, rfl, nofun⟩
  show Framing.slices size body.rest = Framing.slices size ([] ++ Stock.rest feed)
  rw [hrest, List.nil_append]

/-- **A WRONG DECLARED LENGTH IS ALWAYS FOUND OUT.**  Whatever is done with a body that is framed with a
length that is not its own: the empty chunk is never signed, nothing beyond the declared length is, and
less is delivered than was announced.  If the source does not fail, whoever comes to the end is told,
and from then on no frame is made. -/
theorem frame_exposed {body : Body} (h : body.Readable) (hh : body.Honest) {signer : ChunkSigner}
    (hsigner : signer.state ≠ .terminal) {chunkSize declared : Int} (hsize : 1 ≤ chunkSize)
    (h0 : 0 ≤ declared) (hwrong : (body.rest.length : Int) ≠ declared) :
    ∃ (depth : Nat) (p : Framed (Layer depth)),
      body.frame signer chunkSize declared = .ok (framed depth p)
        ∧ ∀ uses : List Use, ∃ q : Framed (Layer depth),
          (useAll uses (framed depth p)).2 = framed depth q
            ∧ Exposed signer body.rest declared p.contentLength
                (useAll uses (framed depth p)).1 q
            ∧ (body.Unfailing chunkSize.toNat →
                Caught declared p.contentLength (useAll uses (framed depth p)).1 q) := by
  obtain ⟨size, rfl⟩ := Int.eq_ofNat_of_zero_le (a := chunkSize) (by omega)
  obtain ⟨n, rfl⟩ := Int.eq_ofNat_of_zero_le h0
  obtain ⟨depth, p, hframe, hstray, htotal, hsteady⟩ :=
    frame_strays h hh hsigner (by omega : 0 < size) hwrong
  refine ⟨depth, p, hframe, fun uses => ?_⟩
  obtain ⟨q, hq, hs, hf, herr⟩ := useAll_strays uses hstray
  rw [List.nil_append] at hs
  rw [htotal]
  refine ⟨q, hq, exposed_of_strays hs rfl, fun hu => ?_⟩
  exact caught_of_strays hs (hf.steady (hsteady hu)) (herr (hsteady hu)) rfl

/-- Five bytes of a stream, declared to be four: the length is passed WITHIN the last chunk. -/
theorem frame_exposed_halting_stream :
    let signer : ChunkSigner := ⟨[1, 2], "20150830/us-east-1/s3/aws4_request", "20150830T123600Z",
      "seed", .ready, 0⟩
    let body : Body := .stream
      ⟨.sync, none, none, [10, 20, 30, 40, 50], 0, fun k => some (k % 2 + 1), fun _ => false, [], []⟩
    (body.Readable ∧ body.Honest ∧ signer.state ≠ .terminal ∧ 1 ≤ (3 : Int) ∧ 0 ≤ (4 : Int)
        ∧ (body.rest.length : Int) ≠ 4 ∧ body.Unfailing (3 : Int).toNat)
      ∧ ∃ (depth : Nat) (p : Framed (Layer depth)), body.frame signer 3 4 = .ok (framed depth p)
        ∧ ∀ uses : List Use, ∃ q : Framed (Layer depth),
          (useAll uses (framed depth p)).2 = framed depth q
            ∧ Exposed signer body.rest 4 p.contentLength (useAll uses (framed depth p)).1 q
            ∧ (body.Unfailing (3 : Int).toNat →
                Caught 4 p.contentLength (useAll uses (framed depth p)).1 q) := by
  intro signer body
  have hh : body.Honest := by
    intro k
    show some (k % 2 + 1) ≠ some 0
    simp
  have hu : body.Unfailing (3 : Int).toNat := ⟨rfl, fun _ => rfl⟩
  have hsigner : signer.state ≠ .terminal := by decide
  have hwrong : (body.rest.length : Int) ≠ 4 := by decide
  exact ⟨⟨hu.readable, hh, hsigner, by decide, by decide, hwrong, hu⟩,
    frame_exposed hu.readable hh hsigner (by decide) (by decide) hwrong⟩

/-- A body that is declared to have LESS THAN NO BYTES delivers nothing. -/
theorem frame_negative {body : Body} {chunkSize declared : Int} (hsize : 1 ≤ chunkSize)
    (hh : body.Honest) (hu : body.Unfailing chunkSize.toNat) {signer : ChunkSigner}
    (hsigner : signer.state ≠ .terminal) (hneg : declared < 0) :
    ∃ out e, body.frame signer chunkSize declared = .ok out ∧ e.BlamesLength declared
      ∧ (∃ o, out.items? = some o ∧ o.result = .error e)
      ∧ ∀ size, size ≠ some 0 → ∃ o, out.read? size = some o ∧ o.result = .error e := by
  obtain ⟨depth, feed, total, -, hframe, hfeed, -, hsteady⟩ :=
    frame_started hu.readable hh signer (by omega : chunkSize ≠ 0) declared
  let p : Framed (Layer depth) := ⟨feed, false, [], chunkSize, signer, declared, total, 0, []⟩
  have hsound : p.Sound := by
    refine ⟨?_, hfeed, nofun⟩
    show 0 < chunkSize.toNat
    omega
  obtain ⟨e, he, hblame⟩ :=
    Framed.nextFrame_negative hsound hsigner hneg (Or.inr (hsteady _ hu))
  refine ⟨framed depth p, e, hframe, hblame, ⟨_, rfl, ?_⟩, fun size h0 =>
    ⟨_, rfl, Framed.read_eq_error rfl he size h0⟩⟩
  show p.items.result = _
  rw [Framed.items_eq_frames rfl, Framed.frames_eq_error he]

end SigV4.Body
