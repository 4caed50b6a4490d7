/-
  RETRIES: what a framed payload delivers while its source fails now and then.

  1. **Calls** — `Body.Call` is a read, or some items of an iteration that is begun for them and then
     given up.  `serve` makes a call and `serveAll` one after the other, also behind calls that fail;
     they collect the bytes that are DELIVERED.
  2. **Waste** — a read without a size takes what is pending and signs frame after frame before it
     delivers anything.  `Wastes` says that it then fails; what it took is gone.
  3. **One call** (`serve_takes`) — what is delivered, and what remains, is what remained before,
     UNLESS the call wastes; then it is a part of it.
  4. **A run** (`serveAll_takes`) — the same for any number of calls.  So runs without a size are the
     only ones that lose bytes (`frame_serves_sized`), and a run delivers everything in the end if and only if
     none of its calls wastes (`frame_serves_all_iff`).

  The crux is that a CALL THAT FAILS is a step like any other: nothing here asks when the source fails.
-/
import SigV4.Payload.Cursor
import SigV4.Proofs.Payload.Failure
import SigV4.Proofs.Payload.WireLength

namespace SigV4

namespace Body

/-! ## Calls -/

/-- A use that is made of a body. -/
inductive Call where
  /-- A read of so many bytes, of all without a size or with a negative one. -/
  | read (size : Option Int)
  /-- So many items of a new iteration. -/
  | take (count : Nat)

/-- A call that asks for so many bytes or items. -/
def Call.Sized : Call → Prop
  | read size => Framed.isWhole size = false
  | take _ => True

/-- Takes items until there are so many, or one fails to come. -/
def takeItems : Nat → Cursor → Body → Bytes × Body
  | 0, _, body => ([], body)
  | count + 1, cursor, body =>
    let o := cursor.next body
    match o.result with
    | .ok (some item) =>
      let more := takeItems count o.next.1 o.next.2
      (item ++ more.1, more.2)
    | _ => ([], o.next.2)

/-- **The bytes that a call delivers,** none where it fails, and the body after it. -/
def serve (body : Body) : Call → Bytes × Body
  | .read size =>
    match body.read? size with
    | some o => (o.result.toOption.getD [], o.next)
    | none => ([], body)
  | .take count =>
    match Cursor.start? body with
    | some cursor => takeItems count cursor body
    | none => ([], body)

/-- **The bytes that calls deliver** one after the other, and the body after them. -/
def serveAll : List Call → Body → Bytes × Body
  | [], body => ([], body)
  | call :: calls, body =>
    let one := body.serve call
    let more := serveAll calls one.2
    (one.1 ++ more.1, more.2)

/-! ## Waste -/

/-- **A read of everything that fails behind bytes it took:** some were pending, or some frames have
been signed. -/
def Wastes : Body → Call → Prop
  | framed _ p, .read size =>
    Framed.isWhole size = true ∧ (∃ e, (p.read size).result = .error e)
      ∧ (p.pending ≠ [] ∨ (p.read size).next.signer.count ≠ p.signer.count)
  | _, _ => False

/-- Calls of which none wastes anything. -/
def Spared : List Call → Body → Prop
  | [], _ => True
  | call :: calls, body => ¬body.Wastes call ∧ Spared calls (body.serve call).2

end Body

/-! ## One call -/

namespace Framed

variable {σ : Type} [Supply σ] [Stock σ]

/-- An item that is taken is the first of what remains, and then nothing is pending; where no item
comes, all remains. -/
def TakesItem (p : Framed σ) (o : Outcome (Framed σ) (Option Bytes)) : Prop :=
  o.next.Exact ∧
    match o.result with
    | .ok (some item) => item ++ o.next.remaining = p.remaining ∧ o.next.pending = []
    | _ => o.next.remaining = p.remaining

/-- Behind pending bytes a frame would come TOO EARLY; with none pending it is the next item. -/
theorem nextFrame_takesItem {p : Framed σ} (h : p.Exact) (hp : p.pending = []) :
    p.TakesItem p.nextFrame := by
  obtain ⟨hx, hpend, hr⟩ := nextFrame_takes h
  refine ⟨hx, ?_⟩
  cases hn : p.nextFrame.result with
  | error e =>
    rw [hn] at hr
    show p.nextFrame.next.pending ++ p.nextFrame.next.framesLeft.flatten = p.remaining
    rw [hpend, hr.1, remaining]
  | ok item =>
    rw [hn] at hr
    cases item with
    | none =>
      show p.nextFrame.next.remaining = p.remaining
      rw [hr.2]
    | some frame =>
      refine ⟨?_, hpend.trans hp⟩
      rw [remaining, remaining, hr.1, hpend, hp]
      rfl

theorem firstItem_takesItem {p : Framed σ} (h : p.Exact) :
    p.TakesItem (Cursor.firstItem p) := by
  unfold Cursor.firstItem
  by_cases hp : p.pending = []
  · rw [if_pos (by rw [hp]; rfl)]
    exact nextFrame_takesItem h hp
  · rw [if_neg (by simpa using hp)]
    exact ⟨h.pend [], rfl, rfl⟩

/-- A read of everything delivers what remains, or fails and leaves the rest of it: what it took is
what was pending and the frames that it signed. -/
theorem items_takes {p : Framed σ} (h : p.Exact) :
    p.items.next.Exact
      ∧ match p.items.result with
        | .ok items => items.flatten = p.remaining ∧ p.items.next.remaining = []
        | .error _ => ∃ lost : List Bytes, p.framesLeft = lost ++ p.items.next.framesLeft
            ∧ p.items.next.pending = []
            ∧ p.items.next.signer.count = p.signer.count + lost.length := by
  obtain ⟨hx, hpend, hr⟩ := frames_takes (h.pend [])
  refine ⟨hx, ?_⟩
  rw [items, Outcome.result_map, Outcome.next_map]
  cases hf : (frames { p with pending := [] }).result with
  | error e =>
    rw [hf] at hr
    obtain ⟨lost, hl, hc⟩ := hr
    exact ⟨lost, hl, hpend, hc⟩
  | ok made =>
    rw [hf] at hr
    obtain ⟨hm, hl⟩ := hr
    refine ⟨?_, ?_⟩
    · rw [List.flatten_append, flatten_pendingItem, hm]
      rfl
    · rw [remaining, hpend, hl]
      rfl

/-- `out` was taken from `p`, and `q` is what it left: NOTHING COMES TWICE OR IN ANOTHER ORDER, and
nothing is lost where `spared` holds. -/
structure Took (p : Framed σ) (out : Bytes) (q : Framed σ) (spared : Prop) : Prop where
  exact : q.Exact
  part : List.Sublist (out ++ q.remaining) p.remaining
  all_iff : out ++ q.remaining = p.remaining ↔ spared

theorem Took.of_eq {p q : Framed σ} {out : Bytes} {spared : Prop} (hq : q.Exact)
    (h : out ++ q.remaining = p.remaining) (hs : spared) : Took p out q spared :=
  ⟨hq, h ▸ List.Sublist.refl _, fun _ => hs, fun _ => h⟩

theorem Took.trans {p q r : Framed σ} {out more : Bytes} {spared spared' : Prop}
    (h : Took p out q spared) (h' : Took q more r spared') :
    Took p (out ++ more) r (spared ∧ spared') := by
  have hpart : List.Sublist (out ++ (more ++ r.remaining)) (out ++ q.remaining) :=
    (List.append_sublist_append_left out).mpr h'.part
  refine ⟨h'.exact, by rw [List.append_assoc]; exact hpart.trans h.part, ?_⟩
  rw [← h.all_iff, ← h'.all_iff, List.append_assoc]
  constructor
  · intro he
    -- the whole chain has one length, so each of its parts is an equation
    have hmid : out ++ (more ++ r.remaining) = out ++ q.remaining := by
      refine hpart.eq_of_length_le ?_
      rw [he]
      exact h.part.length_le
    exact ⟨hmid.symm.trans he, List.append_cancel_left hmid⟩
  · rintro ⟨hfirst, hsecond⟩
    rw [hsecond, hfirst]

/-- Where all that remained was taken, nothing remains and nothing was lost. -/
theorem Took.spared {p q : Framed σ} {out : Bytes} {spared : Prop} (h : Took p out q spared)
    (hall : out = p.remaining) : spared := by
  have hnone : q.remaining = [] := by
    have hlen := h.part.length_le
    rw [hall, List.length_append] at hlen
    exact List.length_eq_zero_iff.mp (by omega)
  exact h.all_iff.mp (by rw [hnone, List.append_nil, hall])

theorem readSized_took (size : Nat) {p : Framed σ} (h : p.Exact) :
    p.Took ((p.readSized size).result.toOption.getD []) (p.readSized size).next True := by
  obtain ⟨hx, hr⟩ := readSized_takes size h
  refine .of_eq hx ?_ trivial
  cases ho : (p.readSized size).result with
  | error e =>
    rw [ho] at hr
    exact hr
  | ok bs =>
    rw [ho] at hr
    show bs ++ (p.readSized size).next.remaining = p.remaining
    rw [hr.1, hr.2, List.take_append_drop]

theorem ne_nil_of_mem_framesLeft {p : Framed σ} {frame : Bytes} (h : frame ∈ p.framesLeft) :
    frame ≠ [] := by
  unfold framesLeft at h
  split at h
  · exact nomatch h
  · exact Framing.ne_nil_of_mem_row h

/-- A read of everything that fails LOSES what was pending and the frames that it signed. -/
theorem items_took {p : Framed σ} (h : p.Exact) :
    p.Took ((p.items.map List.flatten).result.toOption.getD []) p.items.next
      (¬((∃ e, p.items.result = .error e)
        ∧ (p.pending ≠ [] ∨ p.items.next.signer.count ≠ p.signer.count))) := by
  obtain ⟨hx, hr⟩ := items_takes h
  rw [Outcome.result_map]
  cases ho : p.items.result with
  | ok items =>
    rw [ho] at hr
    refine .of_eq hx ?_ fun hw => nomatch hw.1
    show items.flatten ++ p.items.next.remaining = p.remaining
    rw [hr.1, hr.2, List.append_nil]
  | error e =>
    rw [ho] at hr
    obtain ⟨lost, hl, hpend, hcount⟩ := hr
    have hsplit : p.remaining = p.pending ++ lost.flatten ++ p.items.next.remaining := by
      rw [remaining, remaining, hl, hpend, List.flatten_append, List.append_assoc]
      rfl
    refine ⟨hx, ?_, ?_⟩
    · show List.Sublist p.items.next.remaining p.remaining
      rw [hsplit]
      exact List.sublist_append_right _ _
    · show p.items.next.remaining = p.remaining ↔ _
      rw [hsplit, hcount]
      constructor
      · rintro he ⟨-, hpending | hsigned⟩
        · have := List.append_left_eq_self.mp he.symm
          exact hpending (List.append_eq_nil_iff.mp this).1
        · -- a frame that was signed is not empty, so it is missed
          have := List.append_left_eq_self.mp he.symm
          have hnone := (List.append_eq_nil_iff.mp this).2
          cases lost with
          | nil => exact hsigned rfl
          | cons frame lost =>
            have hframe : frame ∈ p.framesLeft := by
              rw [hl]
              exact List.mem_cons_self
            have hempty := List.flatten_eq_nil_iff.mp hnone frame List.mem_cons_self
            exact ne_nil_of_mem_framesLeft hframe hempty
      · intro hw
        have hnot : ¬(p.pending ≠ [] ∨ p.signer.count + lost.length ≠ p.signer.count) :=
          fun hor => hw ⟨⟨e, rfl⟩, hor⟩
        have hp : p.pending = [] := Decidable.of_not_not fun hne => hnot (Or.inl hne)
        have hlen : lost.length = 0 := by
          have := Decidable.of_not_not fun hne => hnot (Or.inr hne)
          omega
        rw [hp, List.length_eq_zero_iff.mp hlen]
        rfl

end Framed

namespace Body

/-- The next item of an iteration that has not ended is the first of what remains. -/
theorem next_takesItem {stage : Stage} (hs : stage ≠ .ended) {depth : Nat}
    {p : Framed (Layer depth)} (h : p.Exact) (hpending : stage = .running → p.pending = []) :
    ∃ o : Outcome (Framed (Layer depth)) (Option Bytes), p.TakesItem o
      ∧ (Cursor.frames stage).next (framed depth p)
        = o.within fun q => (.frames (Cursor.stageAfter o.result), framed depth q) := by
  cases stage with
  | fresh => exact ⟨_, Framed.firstItem_takesItem h, rfl⟩
  | running => exact ⟨_, Framed.nextFrame_takesItem h (hpending rfl), rfl⟩
  | ended => exact absurd rfl hs

/-- ITEM BY ITEM nothing is lost, also where an item fails to come. -/
theorem takeItems_takes (count : Nat) {stage : Stage} {depth : Nat} {p : Framed (Layer depth)}
    (h : p.Exact) (hpending : stage = .running → p.pending = []) :
    ∃ q : Framed (Layer depth),
      (takeItems count (.frames stage) (framed depth p)).2 = framed depth q
        ∧ q.Exact
        ∧ (takeItems count (.frames stage) (framed depth p)).1 ++ q.remaining = p.remaining := by
  induction count generalizing p stage with
  | zero => exact ⟨p, rfl, h, rfl⟩
  | succ count ih =>
    by_cases hs : stage = .ended
    · subst hs
      exact ⟨p, rfl, h, rfl⟩
    · obtain ⟨⟨result, next, notices⟩, ⟨hx, hr⟩, hnext⟩ := next_takesItem hs h hpending
      unfold takeItems
      rw [hnext]
      match result, hr with
      | .ok (some item), hr =>
        -- once an item was taken nothing is pending, so the iteration may run on
        have hrun : Stage.running = .running → next.pending = [] := fun _ => hr.2
        obtain ⟨q, hq, hqx, hqr⟩ := ih hx hrun
        refine ⟨q, hq, hqx, ?_⟩
        show item ++ (takeItems count (.frames .running) (framed depth next)).1 ++ q.remaining = _
        rw [List.append_assoc, hqr]
        exact hr.1
      | .ok none, hr => exact ⟨next, rfl, hx, hr⟩
      | .error e, hr => exact ⟨next, rfl, hx, hr⟩

/-- **One call:** nothing is lost UNLESS IT WASTES. -/
theorem serve_takes {depth : Nat} {p : Framed (Layer depth)} (h : p.Exact) (call : Call) :
    ∃ q : Framed (Layer depth), ((framed depth p).serve call).2 = framed depth q
      ∧ p.Took ((framed depth p).serve call).1 q (¬(framed depth p).Wastes call) := by
  cases call with
  | take count =>
    have hfresh : Stage.fresh = .running → p.pending = [] := nofun
    obtain ⟨q, hq, hx, hr⟩ := takeItems_takes count h hfresh
    exact ⟨q, hq, .of_eq hx hr (fun hw => hw)⟩
  | read size =>
    refine ⟨(p.read size).next, rfl, ?_⟩
    show p.Took ((p.read size).result.toOption.getD []) (p.read size).next _
    cases hw : Framed.isWhole size with
    | false =>
      have ht := Framed.readSized_took (size.getD 0).toNat h
      rw [Framed.read_sized hw]
      exact ⟨ht.exact, ht.part, ht.all_iff.trans
        ⟨fun _ hwaste => (nomatch hw.symm.trans hwaste.1), fun _ => trivial⟩⟩
    | true =>
      have ht := Framed.items_took h
      have hwaste : (framed depth p).Wastes (.read size) ↔ (∃ e, p.items.result = .error e)
          ∧ (p.pending ≠ [] ∨ p.items.next.signer.count ≠ p.signer.count) := by
        rw [Wastes, Framed.read_whole hw, Outcome.next_map, Outcome.result_map]
        cases p.items.result <;> simp [hw, Except.map]
      rw [Framed.read_whole hw, hwaste]
      exact ht

/-- A read of everything that fails one frame after it began WASTES that frame. -/
theorem wastes_behind_frame {depth : Nat} {p : Framed (Layer depth)} (h : p.Exact)
    (hpending : p.pending = []) {frame : Bytes} (hframe : p.nextFrame.result = .ok (some frame))
    {e : Fault} (hstop : p.nextFrame.next.nextFrame.result = .error e) :
    (p.read none).result = .error e ∧ (framed depth p).Wastes (.read none) := by
  obtain ⟨hx, -, hsigned⟩ := Framed.nextFrame_takes h
  rw [hframe] at hsigned
  obtain ⟨hfail, hcount⟩ := Framed.frames_eq_error_of_some hx hframe hstop
  have hread : p.read none = p.frames.map List.flatten := by
    rw [Framed.read_whole rfl, Framed.items_eq_frames hpending]
  have herror : (p.read none).result = .error e := by
    rw [hread, Outcome.result_map, hfail]
    rfl
  refine ⟨herror, rfl, ⟨e, herror⟩, Or.inr ?_⟩
  rw [hread]
  show p.frames.next.signer.count ≠ p.signer.count
  rw [hcount, hsigned.2]
  exact Nat.succ_ne_self _

/-- An item that fails delivers NOTHING. -/
theorem serve_take_error {depth : Nat} {p q : Framed (Layer depth)} {e : Fault}
    {notices : List Notice} (hpending : p.pending = []) (h : p.nextFrame = ⟨.error e, q, notices⟩) :
    (framed depth p).serve (.take 1) = ([], framed depth q) := by
  have hfirst : Cursor.firstItem p = ⟨.error e, q, notices⟩ := by
    rw [Cursor.firstItem, hpending]
    exact h
  show takeItems 1 (.frames .fresh) (framed depth p) = _
  simp only [takeItems, Cursor.next, hfirst]
  rfl

/-! ## Runs -/

/-- **A run of calls:** nothing is lost unless one of them wastes. -/
theorem serveAll_takes (calls : List Call) {depth : Nat} {p : Framed (Layer depth)}
    (h : p.Exact) :
    ∃ q : Framed (Layer depth), (serveAll calls (framed depth p)).2 = framed depth q
      ∧ p.Took (serveAll calls (framed depth p)).1 q (Spared calls (framed depth p)) := by
  induction calls generalizing p with
  | nil => exact ⟨p, rfl, .of_eq h rfl trivial⟩
  | cons call calls ih =>
    obtain ⟨q, hq, ht⟩ := serve_takes h call
    obtain ⟨r, hr, ht'⟩ := ih ht.exact
    -- the later calls are made of the body that the first one left
    rw [← hq] at hr ht'
    exact ⟨r, hr, ht.trans ht'⟩

theorem serveAll_behind (call : Call) (calls : List Call) (body : Body) :
    (serveAll (call :: calls) body).2 = (serveAll calls (body.serve call).2).2 := rfl

/-- A read of so many bytes. -/
def readOf (size : Nat) : Call := .read (some (size : Int))

/-- While the feed does not fail, reads by size take what they ask for, and so COME TO THE END. -/
theorem serveAll_reads_end (sizes : List Nat) {depth : Nat} {p : Framed (Layer depth)}
    (h : p.Exact) (hs : p.Steady) (hlong : p.remaining.length ≤ sizes.sum) (size : Nat) :
    ∃ o, (serveAll (sizes.map readOf) (framed depth p)).2.read? (some (size : Int)) = some o
      ∧ o.result = .ok [] := by
  have hread (n : Nat) (q : Framed (Layer depth)) : q.read (some (n : Int)) = q.readSized n :=
    Framed.read_sized (by simp [Framed.isWhole]) q
  induction sizes generalizing p with
  | nil =>
    have hnone : p.remaining = [] := List.length_eq_zero_iff.mp (Nat.le_zero.mp hlong)
    refine ⟨(p.read (some (size : Int))).within (framed depth), rfl, ?_⟩
    rw [Outcome.result_within, hread, (Framed.readSized_steady size h hs).1, hnone, List.take_nil]
  | cons n sizes ih =>
    obtain ⟨hr, hn⟩ := Framed.readSized_steady n h hs
    obtain ⟨hx, ht⟩ := Framed.readSized_takes n h
    rw [hr] at ht
    have hserve : ((framed depth p).serve (readOf n)).2 = framed depth (p.readSized n).next := by
      rw [← hread]
      rfl
    rw [List.map_cons, serveAll_behind, hserve]
    refine ih hx hn ?_
    rw [ht.2, List.length_drop]
    rw [List.sum_cons] at hlong
    omega

/-- Behind an item that failed everything still remains, and reads by size COME TO THE END. -/
theorem serveAll_reads_end_of_error {depth : Nat} {p q : Framed (Layer depth)} (h : p.Exact)
    (hpending : p.pending = []) {e : Fault} {notices : List Notice}
    (hnext : p.nextFrame = ⟨.error e, q, notices⟩) (hs : q.Steady) (sizes : List Nat)
    (hlong : p.remaining.length ≤ sizes.sum) (size : Nat) :
    ∃ o, (serveAll (.take 1 :: sizes.map readOf) (framed depth p)).2.read? (some (size : Int)) = some o
      ∧ o.result = .ok [] := by
  have hserve := serve_take_error hpending hnext
  obtain ⟨q', hq, htook⟩ := serve_takes h (.take 1)
  obtain rfl : q = q' := by
    rw [hserve] at hq
    exact eq_of_heq (Body.framed.inj hq).2
  have hremaining : q.remaining = p.remaining := by
    have hall := htook.all_iff.mpr fun hwastes => hwastes
    rwa [hserve, List.nil_append] at hall
  rw [serveAll_behind, hserve]
  exact serveAll_reads_end sizes htook.exact hs (hremaining ▸ hlong) size

/-- Calls that ask for so many bytes or items waste nothing. -/
theorem spared_of_sized {calls : List Call} (h : ∀ call ∈ calls, call.Sized) (body : Body) :
    Spared calls body := by
  induction calls generalizing body with
  | nil => trivial
  | cons call calls ih =>
    refine ⟨?_, ih (fun c hc => h c (List.mem_cons_of_mem _ hc)) _⟩
    have hsized := h call List.mem_cons_self
    intro hw
    unfold Wastes at hw
    split at hw
    · exact nomatch hw.1.symm.trans hsized
    · exact hw

/-- A read by size that is empty finds nothing remaining. -/
theorem remaining_of_read_nil {depth : Nat} {p : Framed (Layer depth)} (h : p.Exact) {n : Nat}
    (hn : 1 ≤ n) (hr : (p.read (some (n : Int))).result = .ok []) : p.remaining = [] := by
  rw [Framed.read_sized (by simp [Framed.isWhole])] at hr
  exact Framed.readSized_empty (by simpa using Nat.lt_of_lt_of_le Nat.zero_lt_one hn) h hr

/-- **Reads of some bytes and items taken one by one deliver the framing of the payload, WHATEVER
FAILS IN BETWEEN:** always a first part of it, all of it once a read is empty, and a read of everything
delivers exactly what is missing. -/
theorem frame_serves_sized {body : Body} (hr : body.Readable) (hh : body.Honest)
    {signer : ChunkSigner} (hsigner : signer.state ≠ .terminal) {chunkSize : Int}
    (hsize : 1 ≤ chunkSize) :
    ∃ (out : Body) (parts : List Bytes),
      body.frame signer chunkSize body.rest.length = .ok out
        ∧ Framing.IsCut chunkSize.toNat body.rest parts
        ∧ ∀ calls : List Call, (∀ call ∈ calls, call.Sized) →
          let whole := (Framing.row signer.key signer.timestamp signer.scope signer.previous
            (parts ++ [[]])).flatten
          let served := serveAll calls out
          served.1 <+: whole
            ∧ (∀ n : Nat, 1 ≤ n → ∃ o, served.2.read? (some n) = some o
                ∧ (o.result = .ok [] → served.1 = whole))
            ∧ ∃ o, served.2.read? none = some o
                ∧ ∀ bs, o.result = .ok bs → served.1 ++ bs = whole := by
  obtain ⟨depth, p, hf, hb, -⟩ := frame_begun hr hh hsigner hsize
  have h0 : 0 < chunkSize.toNat := by omega
  refine ⟨framed depth p, _, hf, Framing.isCut_slices h0 body.rest, fun calls hcalls => ?_⟩
  intro whole served
  have hwhole : p.remaining = whole := hb.remaining
  obtain ⟨q, hq, ht⟩ := serveAll_takes calls hb.exact
  have hq' : served.2 = framed depth q := hq
  have hall : served.1 ++ q.remaining = whole :=
    (ht.all_iff.mpr (spared_of_sized hcalls _)).trans hwhole
  refine ⟨⟨q.remaining, hall⟩, fun n hn => ?_, ?_⟩
  · rw [hq']
    refine ⟨_, rfl, fun hread => ?_⟩
    rw [← hall, remaining_of_read_nil ht.exact hn hread, List.append_nil]
  · rw [hq']
    refine ⟨_, rfl, fun bs hread => ?_⟩
    have hitems := (Framed.items_takes ht.exact).2
    have hread' : (q.items.map List.flatten).result = .ok bs := hread
    rw [Outcome.result_map] at hread'
    cases ho : q.items.result with
    | error e =>
      rw [ho] at hread'
      exact nomatch hread'
    | ok items =>
      rw [ho] at hitems hread'
      have hbs : items.flatten = bs := Except.ok.inj hread'
      rw [← hbs, hitems.1, hall]

/-- A stream whose next read delivers one byte, and the one behind it fails: an item does not come, and reads by
size then deliver everything. -/
theorem frame_serves_sized_halting :
    let signer : ChunkSigner := ⟨[1, 2], "20150830/us-east-1/s3/aws4_request", "20150830T123600Z",
      "seed", .ready, 0⟩
    let body : Body := .stream ⟨.sync, none, none, [10, 20, 30, 40, 50], 0,
      fun k => some (k % 2 + 1), fun k => k == 1, [], []⟩
    let calls : List Call := .take 1 :: [3, 0, 1000].map readOf
    (body.Readable ∧ body.Honest ∧ signer.state ≠ .terminal ∧ 1 ≤ (2 : Int)
        ∧ ∀ call ∈ calls, call.Sized)
      ∧ ∃ (out : Body) (parts : List Bytes),
        body.frame signer 2 body.rest.length = .ok out
          ∧ (serveAll [.take 1, readOf 3] out).1 <+: (Framing.row signer.key signer.timestamp
              signer.scope signer.previous (parts ++ [[]])).flatten
          ∧ (∃ o, (serveAll calls out).2.read? (some 1) = some o ∧ o.result = .ok [])
          ∧ (serveAll calls out).1 = (Framing.row signer.key signer.timestamp signer.scope
              signer.previous (parts ++ [[]])).flatten := by
  intro signer body calls
  have hr : body.Readable := ⟨rfl, fun _ => nofun⟩
  have hh : body.Honest := by
    intro k
    show some (k % 2 + 1) ≠ some 0
    simp
  have hsigner : signer.state ≠ .terminal := by decide
  have hcalls : ∀ call ∈ calls, call.Sized := by simp [calls, readOf, Call.Sized, Framed.isWhole]
  obtain ⟨out, parts, hf, hcut, hall⟩ :=
    frame_serves_sized hr hh hsigner (by decide : 1 ≤ (2 : Int))
  obtain ⟨-, hcomplete, -⟩ := hall calls hcalls
  have hfew := (hall [.take 1, readOf 3] (by simp [readOf, Call.Sized, Framed.isWhole])).1
  suffices hend : ∃ o, (serveAll calls out).2.read? (some 1) = some o ∧ o.result = .ok [] by
    obtain ⟨o, ho, hempty⟩ := hend
    obtain ⟨o', ho', hwhole⟩ := hcomplete 1 (Nat.le_refl 1)
    obtain rfl : o = o' := Option.some.inj (ho.symm.trans ho')
    exact ⟨⟨hr, hh, hsigner, by decide, hcalls⟩, out, parts, hf, hfew, ⟨o, ho, hempty⟩,
      hwhole hempty⟩
  -- the first item takes the read that delivers and the one that fails, and holds what came
  let s : Stream := ⟨.sync, none, none, [10, 20, 30, 40, 50], 0, fun k => some (k % 2 + 1),
    fun k => k == 1, [], []⟩
  let left : Stream := ((s.read (some 2)).2.read (some 2)).2
  obtain ⟨total, hs⟩ := Framed.start_eq_ok (by decide : (2 : Int) ≠ 0) (Feed.direct (.stream s))
    signer 5
  let p : Framed (Layer 0) := ⟨Feed.direct (.stream s), false, [], 2, signer, 5, total, 0, []⟩
  let q : Framed (Layer 0) := ⟨Feed.direct (.stream left), false, [10], 2, signer, 5, total, 0, []⟩
  obtain rfl : framed 0 p = out := by
    have hframe : body.frame signer 2 body.rest.length = .ok (framed 0 p) := frame_of_feed rfl hs
    exact Except.ok.inj (hframe.symm.trans hf)
  have hfill : p.fill = ⟨.error .connectionReset, q, []⟩ := by
    let one : Framed (Layer 0) := p.hold (.direct (.stream (s.read (some 2)).2)) [10]
    have hheld : p.held.length < p.cutSize := (by decide : 0 < 2)
    have hheld' : one.held.length < one.cutSize := (by decide : 1 < 2)
    have hone : p.fill = one.fill.after [] := Framed.fill_eq_pull rfl hheld rfl
    have hstop : one.fill = ⟨.error .connectionReset, q, []⟩ := Framed.fill_eq_error rfl hheld' rfl
    rw [hone, hstop]
    rfl
  have hnext : p.nextFrame = ⟨.error .connectionReset, q, []⟩ := by
    rw [Framed.nextFrame, if_neg (by decide : ¬ChunkState.ready = .terminal), hfill]
    rfl
  have hfeed : Stock.Honest p.feed := hh
  have hbegun : p.Begun signer 2 body.rest :=
    Framed.begun_of_feed hfeed rfl hsigner (by decide : 1 ≤ (2 : Int)) total
  have hremaining : p.remaining.length ≤ 1003 := by
    have hlong : Framing.rowLength 2 5 + Framing.frameLength 0 ≤ 1003 := by
      rw [Framing.rowLength_of_ge (by decide) (by decide), Framing.rowLength_of_ge (by decide)
        (by decide), Framing.rowLength_of_le (by decide) (by decide), Framing.frameLength_of_lt
        (by decide), Framing.frameLength_of_lt (by decide), Framing.frameLength_of_lt (by decide)]
      decide
    rw [hbegun.remaining, Framing.length_ofPayload (by decide : 0 < 2)]
    exact hlong
  -- the stream fails at its second read only
  have hlater : q.Steady := .inr (Feed.steady_later fun k hk => beq_false_of_ne (by
    have htwo : 2 ≤ k := hk
    omega))
  exact serveAll_reads_end_of_error hbegun.exact rfl hnext hlater [3, 0, 1000] hremaining 1

/-- **A run of any calls delivers everything in the end IF AND ONLY IF none of its calls wastes.**  What
it delivers is always a part of the framing in order, and up to the first wasteful call a first part. -/
theorem frame_serves_all_iff {body : Body} (hr : body.Readable) (hh : body.Honest)
    {signer : ChunkSigner} (hsigner : signer.state ≠ .terminal) {chunkSize : Int}
    (hsize : 1 ≤ chunkSize) :
    ∃ (out : Body) (parts : List Bytes),
      body.frame signer chunkSize body.rest.length = .ok out
        ∧ Framing.IsCut chunkSize.toNat body.rest parts
        ∧ ∀ calls : List Call,
          let whole := (Framing.row signer.key signer.timestamp signer.scope signer.previous
            (parts ++ [[]])).flatten
          let served := serveAll calls out
          List.Sublist served.1 whole
            ∧ (Spared calls out → served.1 <+: whole)
            ∧ ∀ n : Nat, 1 ≤ n → ∃ o, served.2.read? (some n) = some o
                ∧ (o.result = .ok [] → (served.1 = whole ↔ Spared calls out)) := by
  obtain ⟨depth, p, hf, hb, -⟩ := frame_begun hr hh hsigner hsize
  have h0 : 0 < chunkSize.toNat := by omega
  refine ⟨framed depth p, _, hf, Framing.isCut_slices h0 body.rest, fun calls => ?_⟩
  intro whole served
  have hwhole : p.remaining = whole := hb.remaining
  obtain ⟨q, hq, ht⟩ := serveAll_takes calls hb.exact
  have hq' : served.2 = framed depth q := hq
  have hiff : served.1 ++ q.remaining = whole ↔ Spared calls (framed depth p) :=
    hwhole ▸ ht.all_iff
  have hpart : List.Sublist (served.1 ++ q.remaining) whole := hwhole ▸ ht.part
  refine ⟨(List.sublist_append_left _ _).trans hpart, fun hs => ⟨_, hiff.mpr hs⟩,
    fun n hn => ?_⟩
  rw [hq']
  refine ⟨_, rfl, fun hread => ?_⟩
  -- an empty read shows that nothing remains, and then the two equations are one
  rw [← hiff, remaining_of_read_nil ht.exact hn hread, List.append_nil]

/-- A stream the second read of which fails, read in all, in part, and item by item. -/
theorem frame_serves_all_iff_halting :
    let signer : ChunkSigner := ⟨[1, 2], "20150830/us-east-1/s3/aws4_request", "20150830T123600Z",
      "seed", .ready, 0⟩
    let body : Body := .stream ⟨.sync, none, none, [97, 98, 99, 100, 101, 102, 103, 104], 0,
      fun _ => none, fun k => k == 1, [], []⟩
    let calls : List Call := [.read none, .read (some 3), .take 1, .read (some (-1))]
    (body.Readable ∧ body.Honest ∧ signer.state ≠ .terminal ∧ 1 ≤ (4 : Int))
      ∧ ∃ (out : Body) (parts : List Bytes),
        body.frame signer 4 body.rest.length = .ok out
          ∧ List.Sublist (serveAll calls out).1 (Framing.row signer.key signer.timestamp
              signer.scope signer.previous (parts ++ [[]])).flatten := by
  intro signer body calls
  have hr : body.Readable := ⟨rfl, fun _ => nofun⟩
  have hh : body.Honest := fun k => nofun
  have hsigner : signer.state ≠ .terminal := by decide
  obtain ⟨out, parts, hf, -, hall⟩ :=
    frame_serves_all_iff hr hh hsigner (by decide : 1 ≤ (4 : Int))
  exact ⟨⟨hr, hh, hsigner, by decide⟩, out, parts, hf, (hall calls).1⟩

/-- ONE FAILURE IS ENOUGH: of eight bytes in two chunks the first is lost for good if everything is
asked for and the source fails at the second. -/
theorem frame_serves_less :
    let signer : ChunkSigner := ⟨[1, 2], "20150830/us-east-1/s3/aws4_request", "20150830T123600Z",
      "seed", .ready, 0⟩
    let body : Body := .stream ⟨.sync, none, none, [97, 98, 99, 100, 101, 102, 103, 104], 0,
      fun _ => none, fun k => k == 1, [], []⟩
    ∃ out, body.frame signer 4 body.rest.length = .ok out
      ∧ (∃ o, out.read? none = some o ∧ o.result = .error .connectionReset)
      ∧ ∀ calls : List Call, (serveAll (.read none :: calls) out).1
          ≠ (Framing.row signer.key signer.timestamp signer.scope signer.previous
              (Framing.slices 4 body.rest ++ [[]])).flatten := by
  intro signer body
  let s : Stream := ⟨.sync, none, none, [97, 98, 99, 100, 101, 102, 103, 104], 0, fun _ => none,
    fun k => k == 1, [], []⟩
  obtain ⟨total, hs⟩ := Framed.start_eq_ok (by decide : (4 : Int) ≠ 0) (Feed.direct (.stream s))
    signer 8
  let p : Framed (Layer 0) := ⟨Feed.direct (.stream s), false, [], 4, signer, 8, total, 0, []⟩
  have hf : body.frame signer 4 body.rest.length = .ok (framed 0 p) := frame_of_feed rfl hs
  have hx : p.Exact := ⟨⟨(by decide : 0 < 4), fun _ => nofun, nofun⟩, (by decide : (8 : Int) = 8)⟩
  have hu : p.unframed = body.rest := rfl
  have hcut : p.cutSize = 4 := rfl
  have hleft : p.framesLeft = Framing.ofPayload signer 4 body.rest := by
    rw [Framed.framesLeft, if_neg (by decide : ¬ChunkState.ready = .terminal), hu, hcut]
  -- the first frame takes one read, the second would take the one that fails
  have hheld : p.held.length < p.cutSize := (by decide : 0 < 4)
  have hfull : p.cutSize ≤ (p.held ++ [97, 98, 99, 100]).length := (by decide : 4 ≤ 4)
  let q : Framed (Layer 0) := p.hold (.direct (.stream (s.read (some 4)).2)) [97, 98, 99, 100]
  have hfill : p.fill = ⟨.ok (), q, []⟩ := Framed.fill_eq_hold rfl hheld rfl hfull
  have hnext : p.nextFrame = q.dropChunk.frameChunk q.chunk := by
    rw [Framed.nextFrame, if_neg (by decide : ¬ChunkState.ready = .terminal), hfill]
    rfl
  have hfirst : ∃ frame, p.nextFrame.result = .ok (some frame) := by
    rw [hnext]
    exact ⟨_, rfl⟩
  have hstop : p.nextFrame.next.nextFrame.result = .error .connectionReset := by
    rw [hnext]
    exact Framed.nextFrame_eq_error (by decide : ChunkState.signing ≠ .terminal) rfl
      (by decide : 0 < 4) rfl
  obtain ⟨frame, hframe⟩ := hfirst
  obtain ⟨hread, hwastes⟩ := wastes_behind_frame hx rfl hframe hstop
  refine ⟨framed 0 p, hf, ⟨_, rfl, hread⟩, fun calls => ?_⟩
  obtain ⟨r, -, ht⟩ := serveAll_takes (.read none :: calls) hx
  intro hall
  have hwhole : (serveAll (.read none :: calls) (framed 0 p)).1 = p.remaining := by
    rw [hall, Framed.remaining, hleft, Framing.ofPayload]
    exact (List.nil_append _).symm
  exact (ht.spared hwhole).1 hwastes

end Body

end SigV4
