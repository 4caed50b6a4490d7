/-
  RESLICING: a reader over pieces cuts them anew, and pulls no piece before it needs it.

  1. **Asks** — `Ask` is a read of any size, the next block of an iteration HOWEVER FAR THAT HAS COME, or a
     whole iteration.  `Cuts` says what each is to be answered with, by the bytes that are left, and what is
     then left of them.
  2. **One ask** — what a read takes (`read_takes`), and which pieces it pulls for that: one by one, as long
     as it is short of bytes (`gather_pulls`).  A whole iteration is one read after the other
     (`drain_takes`).
  3. **Rows of asks** — `askAll_reslices`: after any row of asks nothing is lost, repeated or exchanged, and
     whatever is asked next is answered as it is to be, without a piece too many.

  The crux is that held bytes and pieces are ONE text: an ask sees only where it ends, and a piece in parts is
  no case of its own.
-/
import SigV4.Payload.Cursor
import SigV4.Proofs.Payload.Framing
import SigV4.Proofs.Payload.Spill

namespace SigV4

namespace Reader

/-! ## Asks -/

/-- What can be asked of a reader. -/
inductive Ask where
  /-- So many bytes; all that are left for a negative number. -/
  | read (size : Int)
  /-- The next block of an iteration that has come so far. -/
  | block (stage : Stage)
  /-- All blocks of a new iteration. -/
  | blocks

/-- What comes of it. -/
inductive Answer where
  | bytes (bs : Bytes)
  | block (item : Option Bytes)
  | blocks (items : List Bytes)

/-- The bytes of an answer. -/
def Answer.content : Answer → Bytes
  | bytes bs => bs
  | block item => item.getD []
  | blocks items => items.flatten

/-- How many bytes an ask is for, if it is for a number of them. -/
def Ask.size? : Ask → Option Nat
  | read size => limitOf size
  | block .ended => none
  | block _ => some blockSize
  | blocks => none

theorem Ask.size?_block {stage : Stage} (h : stage ≠ .ended) : (block stage).size? = some blockSize := by
  cases stage with
  | ended => exact absurd rfl h
  | fresh => rfl
  | running => rfl

/-- **What an ask is to be answered with,** where these bytes are left, and what is left then. -/
inductive Cuts : Ask → Bytes → Answer → Bytes → Prop where
  /-- The next bytes, as many as were asked for or are left. -/
  | sized (n : Nat) (rest : Bytes) : Cuts (.read n) rest (.bytes (rest.take n)) (rest.drop n)
  /-- Everything. -/
  | whole {size : Int} (h : size < 0) (rest : Bytes) : Cuts (.read size) rest (.bytes rest) []
  /-- The next bytes, a full block or all that are left. -/
  | block {stage : Stage} (h : stage ≠ .ended) {rest : Bytes} (hne : rest ≠ []) :
      Cuts (.block stage) rest (.block (some (rest.take blockSize))) (rest.drop blockSize)
  /-- The end, where nothing is left. -/
  | finished (stage : Stage) : Cuts (.block stage) [] (.block none) []
  /-- The end again, for an iteration that has come to it. -/
  | ended (rest : Bytes) : Cuts (.block .ended) rest (.block none) rest
  /-- Everything in full blocks, the last one shorter if it has to be. -/
  | blocks {rest : Bytes} {items : List Bytes} (h : Framing.IsCut blockSize rest items) :
      Cuts .blocks rest (.blocks items) []

/-- NOTHING IS LOST between an answer and what is left. -/
theorem Cuts.content_append {ask : Ask} {rest rest' : Bytes} {answer : Answer}
    (h : Cuts ask rest answer rest') : answer.content ++ rest' = rest := by
  cases h with
  | sized n => exact List.take_append_drop n rest
  | whole => exact List.append_nil rest
  | block => exact List.take_append_drop blockSize rest
  | finished => rfl
  | ended => rfl
  | blocks hcut =>
    show List.flatten _ ++ [] = rest
    rw [List.append_nil, hcut.flatten_eq]

end Reader

namespace Body

open Reader (Ask Answer)

/-- The answer to an ask. -/
def ask (body : Body) : Ask → Outcome Body Answer
  | .read size =>
    ((body.read? (some size)).getD ⟨.error .sourceUnusable, body, []⟩).map .bytes
  | .block stage => (((Cursor.blocks stage).next body).within Prod.snd).map .block
  | .blocks => (body.items?.getD ⟨.error .sourceUnusable, body, []⟩).map .blocks

/-- **The answers to asks,** one after the other, and the body after them. -/
def askAll : List Ask → Body → List (Except Fault Answer) × Body
  | [], body => ([], body)
  | a :: asks, body =>
    let later := askAll asks (body.ask a).next
    ((body.ask a).result :: later.1, later.2)

end Body

/-! ## One ask -/

namespace Reader

/-- **Between `p` and `q` some pieces were pulled one by one,** each of them while fewer than `n` bytes were
there, `held` among them. -/
def PullsUpTo (n : Nat) (held : Bytes) (p q : Pieces) : Prop :=
  ∃ k, q = { p with pulled := p.pulled + k } ∧ k ≤ p.rest.length
    ∧ ∀ j < k, (held ++ (p.rest.take j).flatten).length < n

/-- Gathering pulls NO PIECE TOO MANY.  By induction on the pieces that are pulled: what was there before the
next one was short of the limit. -/
theorem gather_pulls (n : Nat) (acc : Bytes) (p : Pieces) :
    PullsUpTo n acc p (gather (some n) acc p).next := by
  generalize hlimit : some n = limit
  fun_induction gather limit acc p with
  | case1 acc p hl => exact ⟨0, rfl, Nat.zero_le _, fun j hj => absurd hj (Nat.not_lt_zero j)⟩
  | case2 acc p hl part next notices hp ih =>
    subst hlimit
    obtain ⟨-, rfl, hrest⟩ := Pieces.pull_eq_some hp
    obtain ⟨k, hnext, hk, hshort⟩ := ih
    refine ⟨k + 1, ?_, ?_, fun j hj => ?_⟩
    · rw [hnext]
      simp only [Pieces.seek, Pieces.mk.injEq, true_and, and_true]
      omega
    · rw [hrest, List.length_cons]
      omega
    · cases j with
      | zero => simpa using hl
      | succ j =>
        rw [hrest, List.take_succ_cons, List.flatten_cons, ← List.append_assoc]
        exact hshort j (by omega)
  | case3 acc p hl next notices hp =>
    obtain ⟨-, hnext, -⟩ := Pieces.pull_eq_none hp
    exact ⟨0, hnext, Nat.zero_le _, fun j hj => absurd hj (Nat.not_lt_zero j)⟩
  | case4 acc p hl e next notices hp =>
    obtain ⟨-, hnext⟩ := Pieces.pull_eq_error hp
    exact ⟨0, hnext, Nat.zero_le _, fun j hj => absurd hj (Nat.not_lt_zero j)⟩

/-- Enough bytes of a text, or all of them, are cut as the text is. -/
theorem cut_of_enough {all more : Bytes} {n : Nat} (h : n ≤ all.length ∨ more = []) :
    all.take n = (all ++ more).take n ∧ all.drop n ++ more = (all ++ more).drop n := by
  rcases h with h | rfl
  · exact ⟨(List.take_append_of_le_length h).symm, (List.drop_append_of_le_length h).symm⟩
  · simp

variable {p : Pieces}

/-- **A read by size** delivers the next bytes and pulls no piece too many for them. -/
theorem read_takes (hp : p.Unfailing) (held : Bytes) (n : Nat) :
    ∃ q held', (ofPieces p held).read (some (n : Int))
        = ⟨.ok ((held ++ p.rest.flatten).take n), ofPieces q held', []⟩
      ∧ q.Unfailing ∧ held' ++ q.rest.flatten = (held ++ p.rest.flatten).drop n
      ∧ PullsUpTo n held p q := by
  have hlimit : limitOf (n : Int) = some n := if_neg (by omega)
  obtain ⟨all, hall, hq, hwhole, henough⟩ := gather_takes (some n) held hp
  obtain ⟨htake, hdrop⟩ := cut_of_enough (henough.imp_left fun h => by simpa using h)
  rw [hwhole] at htake hdrop
  refine ⟨_, all.drop n, ?_, hq, hdrop, gather_pulls n held p⟩
  rw [read_ofPieces, hlimit, hall, ← htake]
  rfl

/-- A read without a limit delivers everything. -/
theorem read_takes_whole (hp : p.Unfailing) (held : Bytes) {size : Int} (h : size < 0) :
    ∃ q, (ofPieces p held).read (some size) = ⟨.ok (held ++ p.rest.flatten), ofPieces q [], []⟩
      ∧ q.Unfailing ∧ q.rest.flatten = [] := by
  have hlimit : limitOf size = none := if_pos h
  obtain ⟨all, hall, hq, hwhole, henough⟩ := gather_takes none held hp
  have hrest : (gather none held p).next.rest.flatten = [] := henough.resolve_left nofun
  rw [hrest, List.append_nil] at hwhole
  refine ⟨_, ?_, hq, hrest⟩
  rw [read_ofPieces, hlimit, hall, ← hwhole]
  rfl

/-- The next block of an iteration. -/
theorem pull_takes (hp : p.Unfailing) (held : Bytes) (n : Nat) :
    ∃ q held', (ofPieces p held).pull n
        = ⟨.ok (Bytes.nonempty? ((held ++ p.rest.flatten).take n)), ofPieces q held', []⟩
      ∧ q.Unfailing ∧ held' ++ q.rest.flatten = (held ++ p.rest.flatten).drop n
      ∧ PullsUpTo n held p q := by
  obtain ⟨q, held', hread, hq, hrest, hpulls⟩ := read_takes hp held n
  refine ⟨q, held', ?_, hq, hrest, hpulls⟩
  rw [pull, hread]
  rfl

theorem nonempty?_take {n : Nat} (h0 : 0 < n) {rest : Bytes} (h : rest ≠ []) :
    Bytes.nonempty? (rest.take n) = some (rest.take n) := by
  have hne : (rest.take n).isEmpty = false := by
    simpa using Framing.take_ne_nil h0 h
  rw [Bytes.nonempty?, hne]
  rfl

/-- **A whole iteration** delivers what is left in slices of one size, and leaves nothing.  By induction on
what is left. -/
theorem drain_takes (hp : p.Unfailing) (held : Bytes) {n : Nat} (h0 : 0 < n) :
    ∃ q held', Supply.drain n (ofPieces p held)
        = ⟨.ok (Framing.slices n (held ++ p.rest.flatten)), ofPieces q held', []⟩
      ∧ q.Unfailing ∧ held' ++ q.rest.flatten = [] := by
  generalize hrest : held ++ p.rest.flatten = rest
  induction hlength : rest.length using Nat.strongRecOn generalizing p held rest with
  | ind length ih =>
    obtain ⟨q, held', hpull, hq, hleft, -⟩ := pull_takes hp held n
    have hsupply : Supply.pull n (ofPieces p held) = _ := hpull
    rw [Supply.drain_eq, hsupply]
    rw [hrest] at hleft ⊢
    by_cases hne : rest = []
    · subst hne
      rw [Framing.slices_nil, List.take_nil]
      exact ⟨q, held', rfl, hq, by rw [hleft, List.drop_nil]⟩
    · rw [nonempty?_take h0 hne, Framing.slices_cons h0 hne]
      have hpos := List.length_pos_iff.mpr hne
      have hshort : (rest.drop n).length < length := by
        rw [List.length_drop]
        omega
      obtain ⟨last, held'', hdrain, hlast, hnothing⟩ := ih _ hshort hq held' _ hleft rfl
      refine ⟨last, held'', ?_, hlast, hnothing⟩
      dsimp only
      rw [hdrain]
      rfl

end Reader

/-! ## Rows of asks -/

namespace Body

open Reader (Ask Answer Cuts PullsUpTo ofPieces)

variable {p : Pieces}

/-- The next block of an iteration that goes on. -/
theorem ask_block (hp : p.Unfailing) (held : Bytes) (origin : Origin) {stage : Stage}
    (hstage : stage ≠ .ended) :
    ∃ answer q held', (reader origin (ofPieces p held)).ask (.block stage)
        = ⟨.ok answer, reader origin (ofPieces q held'), []⟩
      ∧ q.Unfailing
      ∧ Cuts (.block stage) (held ++ p.rest.flatten) answer (held' ++ q.rest.flatten)
      ∧ PullsUpTo Reader.blockSize held p q := by
  obtain ⟨q, held', hpull, hq, hleft, hpulls⟩ := Reader.pull_takes hp held Reader.blockSize
  have hask : (reader origin (ofPieces p held)).ask (.block stage)
      = (((ofPieces p held).pull Reader.blockSize).within (reader origin)).map .block := by
    cases stage with
    | ended => exact absurd rfl hstage
    | fresh => rfl
    | running => rfl
  refine ⟨_, q, held', by rw [hask, hpull]; rfl, hq, ?_, hpulls⟩
  rw [hleft]
  generalize held ++ p.rest.flatten = rest
  by_cases hne : rest = []
  · subst hne
    exact .finished stage
  · rw [Reader.nonempty?_take (by decide) hne]
    exact .block hstage hne

/-- **One ask** is answered as it is to be, and pulls no piece too many.  One case for each ask. -/
theorem ask_cuts (hp : p.Unfailing) (held : Bytes) (origin : Origin) (a : Ask) :
    ∃ answer q held', (reader origin (ofPieces p held)).ask a
        = ⟨.ok answer, reader origin (ofPieces q held'), []⟩
      ∧ q.Unfailing ∧ Cuts a (held ++ p.rest.flatten) answer (held' ++ q.rest.flatten)
      ∧ ∀ n, a.size? = some n → PullsUpTo n held p q := by
  cases a with
  | read size =>
    by_cases hsize : size < 0
    · obtain ⟨q, hread, hq, hleft⟩ := Reader.read_takes_whole hp held hsize
      refine ⟨.bytes (held ++ p.rest.flatten), q, [], ?_, hq, ?_, fun n hn => ?_⟩
      · simp only [ask, read?, Option.getD_some, hread]
        rfl
      · rw [List.nil_append, hleft]
        exact .whole hsize _
      · rw [Ask.size?, Reader.limitOf, if_pos hsize] at hn
        cases hn
    · obtain ⟨n, rfl⟩ := Int.eq_ofNat_of_zero_le (Int.not_lt.mp hsize)
      obtain ⟨q, held', hread, hq, hleft, hpulls⟩ := Reader.read_takes hp held n
      refine ⟨.bytes ((held ++ p.rest.flatten).take n), q, held', ?_, hq, ?_, fun m hm => ?_⟩
      · simp only [ask, read?, Option.getD_some, hread]
        rfl
      · rw [hleft]
        exact .sized n _
      · rw [Ask.size?, Reader.limitOf, if_neg hsize] at hm
        obtain rfl : n = m := Option.some.inj hm
        exact hpulls
  | block stage =>
    by_cases hstage : stage = .ended
    · subst hstage
      exact ⟨.block none, p, held, rfl, hp, .ended _, fun n hn => nomatch hn⟩
    · obtain ⟨answer, q, held', hask, hq, hcuts, hpulls⟩ := ask_block hp held origin hstage
      refine ⟨answer, q, held', hask, hq, hcuts, fun n hn => ?_⟩
      rw [Ask.size?_block hstage] at hn
      exact Option.some.inj hn ▸ hpulls
  | blocks =>
    obtain ⟨q, held', hdrain, hq, hleft⟩ := Reader.drain_takes hp held (n := Reader.blockSize) (by decide)
    refine ⟨.blocks (Framing.slices Reader.blockSize (held ++ p.rest.flatten)), q, held', ?_, hq, ?_,
      fun n hn => nomatch hn⟩
    · simp only [ask, items?, Option.getD_some, hdrain]
      rfl
    · rw [hleft]
      exact .blocks (Framing.isCut_slices (by decide) _)

/-- Nothing is lost by a row of asks, and none of them fails.  By induction on the row, an ask leaves a reader
of the same kind. -/
theorem askAll_content (hp : p.Unfailing) (held : Bytes) (origin : Origin) (asks : List Ask) :
    ∃ (answers : List Answer) (q : Pieces) (held' : Bytes), askAll asks (reader origin (ofPieces p held))
        = (answers.map .ok, reader origin (ofPieces q held'))
      ∧ q.Unfailing
      ∧ (answers.map Answer.content).flatten ++ (held' ++ q.rest.flatten) = held ++ p.rest.flatten := by
  induction asks generalizing p held with
  | nil => exact ⟨[], p, held, rfl, hp, rfl⟩
  | cons a asks ih =>
    obtain ⟨answer, q, held', hask, hq, hcuts, -⟩ := ask_cuts hp held origin a
    obtain ⟨answers, last, held'', hall, hlast, hcontent⟩ := ih hq held'
    refine ⟨answer :: answers, last, held'', ?_, hlast, ?_⟩
    · rw [askAll, hask, hall]
      rfl
    · rw [List.map_cons, List.flatten_cons, List.append_assoc, hcontent, hcuts.content_append]

/-- **A reader over pieces cuts them anew.**  For pieces of any sizes that can be had without failing, and any
row of asks: every ask is answered, and the answers' bytes and what is left then are what was there.  From
there ANY ask is answered by the next of the bytes that are left, as `Cuts` says; and if it is for a number of
bytes, each piece is pulled while fewer than that are held. -/
theorem askAll_reslices (hp : p.Unfailing) (held : Bytes) (origin : Origin) (asks : List Ask) :
    ∃ (answers : List Answer) (q : Pieces) (held' : Bytes), askAll asks (reader origin (ofPieces p held))
        = (answers.map .ok, reader origin (ofPieces q held'))
      ∧ (answers.map Answer.content).flatten ++ (held' ++ q.rest.flatten) = held ++ p.rest.flatten
      ∧ ∀ a, ∃ answer q' held'', (reader origin (ofPieces q held')).ask a
          = ⟨.ok answer, reader origin (ofPieces q' held''), []⟩
        ∧ Cuts a (held' ++ q.rest.flatten) answer (held'' ++ q'.rest.flatten)
        ∧ ∀ n, a.size? = some n → PullsUpTo n held' q q' := by
  obtain ⟨answers, q, held', hall, hq, hcontent⟩ := askAll_content hp held origin asks
  refine ⟨answers, q, held', hall, hcontent, fun a => ?_⟩
  obtain ⟨answer, q', held'', hask, -, hcuts, hpulls⟩ := ask_cuts hq held' origin a
  exact ⟨answer, q', held'', hask, hcuts, hpulls⟩

/-- Three bytes of three pieces, the second of them empty, and then none: two are left for an iteration. -/
theorem askAll_reslices_pieces :
    let p : Pieces := { access := .async, parts := [[97, 98], [], [99, 100, 101]] }
    let asks : List Ask := [.read 3, .read 0]
    p.Unfailing
      ∧ (askAll asks (reader .caller (ofPieces p []))).1 = [.ok (.bytes [97, 98, 99]), .ok (.bytes [])]
      ∧ ∃ (answers : List Answer) (q : Pieces) (held' : Bytes),
        askAll asks (reader .caller (ofPieces p [])) = (answers.map .ok, reader .caller (ofPieces q held'))
          ∧ (answers.map Answer.content).flatten ++ (held' ++ q.rest.flatten) = [97, 98, 99, 100, 101]
          ∧ ∃ answer q' held'', (reader .caller (ofPieces q held')).ask .blocks
              = ⟨.ok answer, reader .caller (ofPieces q' held''), []⟩
            ∧ Cuts .blocks (held' ++ q.rest.flatten) answer (held'' ++ q'.rest.flatten) := by
  intro p asks
  have hp : p.Unfailing := nofun
  obtain ⟨answers, q, held', hall, hcontent, hnext⟩ := askAll_reslices hp [] .caller asks
  obtain ⟨answer, q', held'', hask, hcuts, -⟩ := hnext .blocks
  refine ⟨hp, ?_, answers, q, held', hall, hcontent, answer, q', held'', hask, hcuts⟩
  let pulled (k : Nat) : Pieces := { p with pulled := k }
  have hgather : Reader.gather (Reader.limitOf 3) [] p = ⟨.ok [97, 98, 99, 100, 101], pulled 3, []⟩ := by
    rw [Reader.gather_of_part (by decide) (rfl : p.pull = ⟨.ok (some [97, 98]), pulled 1, []⟩),
      Reader.gather_of_part (by decide) (rfl : (pulled 1).pull = ⟨.ok (some []), pulled 2, []⟩),
      Reader.gather_of_part (by decide)
        (rfl : (pulled 2).pull = ⟨.ok (some [99, 100, 101]), pulled 3, []⟩),
      Reader.gather, if_pos (by decide)]
    rfl
  have hfirst : (ofPieces p []).read (some 3) = ⟨.ok [97, 98, 99], ofPieces (pulled 3) [100, 101], []⟩ := by
    rw [Reader.read_ofPieces, hgather]
    rfl
  have hsecond : (ofPieces (pulled 3) [100, 101]).read (some 0)
      = ⟨.ok [], ofPieces (pulled 3) [100, 101], []⟩ := Reader.read_held (Nat.zero_le 2)
  simp only [asks, askAll, ask, read?, Option.getD_some, hfirst, Outcome.next_map, Outcome.next_within,
    Outcome.result_map, Outcome.result_within, hsecond]
  rfl

end Body

end SigV4
