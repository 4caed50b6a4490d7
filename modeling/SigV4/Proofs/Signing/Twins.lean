/-
  TWINS: two payloads in chunks that only the keys of their signers tell apart.

  1. **Signers** — twins sign one chunk after the other in step.  The frames of the same chunks differ in
     their signatures only, whoever signs them (`framesOf_same`), so they are equally long.
  2. **Places** — `SamePlaces`: what is read of two wires at the same places of both.
  3. **One frame** — pulling and cutting do not look at the signer (`fill_under`), so twins sign the same
     chunk, come to their end together, or fail with one fault (`nextFrame_twins`).
  4. **Reading** — by induction on the frames that it takes, every reading keeps twins in step, and what it
     delivers stands at the same places of both wires.

  The crux is that a signature has sixty-four digits UNDER ANY KEY: what is cut off one wire is cut off the
  other at the same place, although the bytes are not the same.
-/
import SigV4.Proofs.Payload.Exposure
import SigV4.Proofs.Payload.Failure
import SigV4.Proofs.Signing.Meaning

namespace SigV4

/-- What is weaker than what is known of two answers holds of them as well. -/
theorem SameAnswer.imp {α : Type} {R S : α → α → Prop} {x y : Except Fault α} (h : SameAnswer R x y)
    (hRS : ∀ a b, R a b → S a b) : SameAnswer S x y := by
  cases h with
  | refused fault => exact .refused fault
  | done h => exact .done (hRS _ _ h)

/-! ## Signers -/

namespace ChunkSigner

/-- The frames of some chunks. -/
def framesOf (s : ChunkSigner) (chunks : List Bytes) : List Bytes :=
  Framing.row s.key s.timestamp s.scope s.previous chunks

theorem framesOf_cons (s : ChunkSigner) (chunk : Bytes) (chunks : List Bytes) :
    s.framesOf (chunk :: chunks)
      = frame (s.signatureOf chunk) chunk :: (s.advance chunk).framesOf chunks := by
  rw [framesOf, Framing.row_cons]
  rfl

theorem framesOf_singleton (s : ChunkSigner) (chunk : Bytes) :
    s.framesOf [chunk] = [frame (s.signatureOf chunk) chunk] := by
  rw [framesOf_cons]
  rfl

/-- Further chunks are signed behind those before them. -/
theorem framesOf_append (s : ChunkSigner) (chunks more : List Bytes) :
    s.framesOf (chunks ++ more) = s.framesOf chunks ++ (chunks.foldl advance s).framesOf more := by
  induction chunks generalizing s with
  | nil => rfl
  | cons chunk chunks ih =>
    rw [List.cons_append, framesOf_cons, framesOf_cons, ih (s.advance chunk), List.cons_append]
    rfl

theorem wireOf_append (s : ChunkSigner) (chunks more : List Bytes) :
    s.wireOf (chunks ++ more) = s.wireOf chunks ++ ((chunks.foldl advance s).framesOf more).flatten := by
  show (s.framesOf (chunks ++ more)).flatten = _
  rw [framesOf_append, List.flatten_append]
  rfl

/-- The same chunks take the same room, WHOEVER SIGNS THEM. -/
theorem length_framesOf (s t : ChunkSigner) (chunks : List Bytes) :
    (t.framesOf chunks).flatten.length = (s.framesOf chunks).flatten.length := by
  rw [framesOf, framesOf, Framing.length_row, Framing.length_row]

/-- **Signers that only their keys tell apart,** and the signatures that were made by them. -/
structure Twins (s t : ChunkSigner) : Prop where
  scope : t.scope = s.scope
  timestamp : t.timestamp = s.timestamp
  state : t.state = s.state
  count : t.count = s.count

variable {s t first second : ChunkSigner} {chunks : List Bytes} {a b : Bytes}

theorem Twins.advance (h : s.Twins t) (chunk : Bytes) : (s.advance chunk).Twins (t.advance chunk) := by
  unfold ChunkSigner.advance
  exact ⟨h.scope, h.timestamp, rfl, congrArg (· + 1) h.count⟩

/-- Twins stay twins behind any chunks. -/
theorem Twins.foldl (h : s.Twins t) (chunks : List Bytes) :
    (chunks.foldl ChunkSigner.advance s).Twins (chunks.foldl ChunkSigner.advance t) := by
  induction chunks generalizing s t with
  | nil => exact h
  | cons chunk chunks ih =>
    rw [List.foldl_cons, List.foldl_cons]
    exact ih (h.advance chunk)

/-! ## Places -/

/-- **Bytes that stand at the same places of two wires,** in the order of these places: the wires are those
of the same chunks, as the one signer and as the other signs them. -/
def SamePlaces (first second : ChunkSigner) (chunks : List Bytes) (a b : Bytes) : Prop :=
  ∃ pairs : List (UInt8 × UInt8), pairs.Sublist ((first.wireOf chunks).zip (second.wireOf chunks))
    ∧ a = pairs.map Prod.fst ∧ b = pairs.map Prod.snd

namespace SamePlaces

theorem nil (first second : ChunkSigner) (chunks : List Bytes) :
    SamePlaces first second chunks [] [] :=
  ⟨[], List.nil_sublist _, rfl, rfl⟩

theorem length_eq (h : SamePlaces first second chunks a b) : b.length = a.length := by
  obtain ⟨pairs, -, rfl, rfl⟩ := h
  rw [List.length_map, List.length_map]

theorem take (h : SamePlaces first second chunks a b) (n : Nat) :
    SamePlaces first second chunks (a.take n) (b.take n) := by
  obtain ⟨pairs, hpairs, rfl, rfl⟩ := h
  exact ⟨pairs.take n, (List.take_sublist n pairs).trans hpairs, List.map_take.symm,
    List.map_take.symm⟩

theorem drop (h : SamePlaces first second chunks a b) (n : Nat) :
    SamePlaces first second chunks (a.drop n) (b.drop n) := by
  obtain ⟨pairs, hpairs, rfl, rfl⟩ := h
  exact ⟨pairs.drop n, (List.drop_sublist n pairs).trans hpairs, List.map_drop.symm,
    List.map_drop.symm⟩

/-- Further frames stand behind what was read before. -/
theorem behind (h : SamePlaces first second chunks a b) (more : List Bytes) :
    SamePlaces first second (chunks ++ more)
      (a ++ ((chunks.foldl advance first).framesOf more).flatten)
      (b ++ ((chunks.foldl advance second).framesOf more).flatten) := by
  obtain ⟨pairs, hpairs, rfl, rfl⟩ := h
  let added := ((chunks.foldl advance first).framesOf more).flatten
  let added' := ((chunks.foldl advance second).framesOf more).flatten
  have hmore : added'.length = added.length := length_framesOf _ _ more
  refine ⟨pairs ++ added.zip added', ?_, ?_, ?_⟩
  · have hlength : (first.wireOf chunks).length = (second.wireOf chunks).length :=
      length_framesOf second first chunks
    rw [wireOf_append, wireOf_append, List.zip_append hlength]
    exact hpairs.append (List.Sublist.refl _)
  · rw [List.map_append, List.map_fst_zip (Nat.le_of_eq hmore.symm)]
  · rw [List.map_append, List.map_snd_zip (Nat.le_of_eq hmore)]

/-- One more frame stands behind what was read before. -/
theorem concat (h : SamePlaces first second chunks a b) (chunk : Bytes) :
    SamePlaces first second (chunks ++ [chunk])
      (a ++ frame ((chunks.foldl advance first).signatureOf chunk) chunk)
      (b ++ frame ((chunks.foldl advance second).signatureOf chunk) chunk) := by
  have hbehind := h.behind [chunk]
  rwa [framesOf_singleton, framesOf_singleton, List.flatten_singleton, List.flatten_singleton]
    at hbehind

/-- One more frame stands at the end. -/
theorem last (first second : ChunkSigner) (chunks : List Bytes) (chunk : Bytes) :
    SamePlaces first second (chunks ++ [chunk])
      (frame ((chunks.foldl advance first).signatureOf chunk) chunk)
      (frame ((chunks.foldl advance second).signatureOf chunk) chunk) := by
  have h := (nil first second chunks).concat chunk
  rwa [List.nil_append, List.nil_append] at h

/-- What was read stays at its places when the wires grow. -/
theorem grow (h : SamePlaces first second chunks a b) (more : List Bytes) :
    SamePlaces first second (chunks ++ more) a b := by
  have hgrown := (h.behind more).take a.length
  rwa [List.take_left, ← h.length_eq, List.take_left] at hgrown

end SamePlaces

end ChunkSigner

/-! ## One frame -/

namespace Framed

open ChunkSigner

variable {σ : Type} {first second : ChunkSigner} {chunks : List Bytes} {p q : Framed σ}

/-- The payload with its chunks signed by another signer, and other framed bytes pending. -/
def under (p : Framed σ) (signer : ChunkSigner) (pending : Bytes) : Framed σ :=
  { p with signer := signer, pending := pending }

/-- **Two runs of one payload in step:** the same chunks have been signed in both, by one of two twins
each; all else is the same, and what is pending stands at the same places of what was signed. -/
structure Twins (first second : ChunkSigner) (chunks : List Bytes) (p q : Framed σ) : Prop where
  signers : first.Twins second
  same : q = p.under (chunks.foldl ChunkSigner.advance second) q.pending
  signer : p.signer = chunks.foldl ChunkSigner.advance first
  pending : SamePlaces first second chunks p.pending q.pending

theorem Twins.signer' (h : Twins first second chunks p q) :
    q.signer = chunks.foldl ChunkSigner.advance second :=
  congrArg Framed.signer h.same

theorem Twins.state (h : Twins first second chunks p q) : q.signer.state = p.signer.state := by
  rw [h.same, h.signer]
  exact (h.signers.foldl chunks).state

/-- What is pending may be put off in both, at the same places. -/
theorem Twins.pend (h : Twins first second chunks p q) {a b : Bytes}
    (hab : SamePlaces first second chunks a b) :
    Twins first second chunks { p with pending := a } { q with pending := b } := by
  refine ⟨h.signers, ?_, h.signer, hab⟩
  rw [h.same]
  rfl

/-- **What two runs in step come to when they are asked for a frame.** -/
inductive FrameTwins (first second : ChunkSigner) (chunks : List Bytes) :
    Outcome (Framed σ) (Option Bytes) → Outcome (Framed σ) (Option Bytes) → Prop where
  /-- The same chunk is signed by both; what was pending still is. -/
  | made (chunk : Bytes) (notices : List Notice) {p q : Framed σ}
    (h : Twins first second (chunks ++ [chunk]) p q)
    (hpending : SamePlaces first second chunks p.pending q.pending) :
    FrameTwins first second chunks
      ⟨.ok (some (frame ((chunks.foldl advance first).signatureOf chunk) chunk)), p, notices⟩
      ⟨.ok (some (frame ((chunks.foldl advance second).signatureOf chunk) chunk)), q, notices⟩
  /-- Both are at their end. -/
  | ended (notices : List Notice) {p q : Framed σ} (h : Twins first second chunks p q) :
    FrameTwins first second chunks ⟨.ok none, p, notices⟩ ⟨.ok none, q, notices⟩
  /-- Both fail with one fault. -/
  | failed (e : Fault) (notices : List Notice) {p q : Framed σ}
    (h : Twins first second chunks p q) :
    FrameTwins first second chunks ⟨.error e, p, notices⟩ ⟨.error e, q, notices⟩

theorem FrameTwins.after {o o' : Outcome (Framed σ) (Option Bytes)}
    (h : FrameTwins first second chunks o o') (earlier : List Notice) :
    FrameTwins first second chunks (o.after earlier) (o'.after earlier) := by
  cases h with
  | made chunk notices h hpending => exact .made chunk _ h hpending
  | ended notices h => exact .ended _ h
  | failed e notices h => exact .failed e _ h

/-- The same chunk is cut off both. -/
theorem Twins.dropChunk (h : Twins first second chunks p q) :
    Twins first second chunks p.dropChunk q.dropChunk := by
  refine ⟨h.signers, ?_, h.signer, h.pending⟩
  rw [h.same]
  rfl

/-- A chunk is signed in both. -/
theorem Twins.sign (h : Twins first second chunks p q) (chunk : Bytes) :
    Twins first second (chunks ++ [chunk]) { p with signer := p.signer.advance chunk }
      { q with signer := q.signer.advance chunk } := by
  refine ⟨h.signers, ?_, ?_, h.pending.grow [chunk]⟩
  · rw [List.foldl_append, ← h.signer', h.same]
    rfl
  · rw [List.foldl_append, ← h.signer]
    rfl

/-- A frame may be kept in both. -/
theorem Twins.keep {chunk : Bytes} (h : Twins first second (chunks ++ [chunk]) p q)
    (hpending : SamePlaces first second chunks p.pending q.pending) :
    Twins first second (chunks ++ [chunk])
      (p.keep (frame ((chunks.foldl ChunkSigner.advance first).signatureOf chunk) chunk))
      (q.keep (frame ((chunks.foldl ChunkSigner.advance second).signatureOf chunk) chunk)) :=
  h.pend (hpending.concat chunk)

/-- **What two runs in step come to:** they give the same notices, both sign the chunks `more`, and their
answers belong together. -/
structure InStep {α : Type} (first second : ChunkSigner) (chunks : List Bytes)
    (R : List Bytes → α → α → Prop) (o o' : Outcome (Framed σ) α) : Prop where
  notices : o'.notices = o.notices
  alike : ∃ more, Twins first second (chunks ++ more) o.next o'.next
    ∧ SameAnswer (R more) o.result o'.result

namespace InStep

variable {α β : Type} {R : List Bytes → α → α → Prop} {o o' : Outcome (Framed σ) α}

/-- Chunks that were signed before come before. -/
theorem after {before : List Bytes} (h : InStep first second (chunks ++ before) R o o')
    {S : List Bytes → α → α → Prop} (hRS : ∀ more a b, R more a b → S (before ++ more) a b)
    (earlier : List Notice) : InStep first second chunks S (o.after earlier) (o'.after earlier) := by
  obtain ⟨hnotices, more, htwins, hanswer⟩ := h
  refine ⟨congrArg (earlier ++ ·) hnotices, before ++ more, ?_, ?_⟩
  · rw [← List.append_assoc]
    exact htwins
  · exact hanswer.imp (hRS more)

/-- Answers that belong together are taken on in the same way. -/
theorem map (h : InStep first second chunks R o o') {S : List Bytes → β → β → Prop} {f g : α → β}
    (hfg : ∀ more a b, R more a b → S more (f a) (g b)) :
    InStep first second chunks S (o.map f) (o'.map g) := by
  obtain ⟨hnotices, more, htwins, hanswer⟩ := h
  exact ⟨hnotices, more, htwins, hanswer.map (hfg more)⟩

end InStep

/-- An item that was found in both stands at the same places, too. -/
theorem InStep.item {chunk f g : Bytes} (hplaces : SamePlaces first second (chunks ++ [chunk]) f g)
    (h : Twins first second (chunks ++ [chunk]) p q) (notices : List Notice) :
    InStep first second chunks (fun more => SamePlaces first second (chunks ++ more))
      (Outcome.map (·.getD []) ⟨.ok (some f), p, notices⟩)
      (Outcome.map (·.getD []) ⟨.ok (some g), q, notices⟩) :=
  ⟨rfl, [chunk], h, .done hplaces⟩

variable [Supply σ]

end Framed

end SigV4
