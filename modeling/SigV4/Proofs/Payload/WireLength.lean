/-
  HOW LONG a framing is, said from the length of the payload ALONE.

  1. **One frame** — `frameLength n` counts the frame of `n` bytes; the signature in it always has
     sixty-four digits, so nothing but `n` matters.  It grows with `n` (`frameLength_lt`).
  2. **A row** — `length_row` adds up the frames of any chunks.  `rowLength size n` is the sum for the
     slices of `n` bytes (`sum_slices`): so many full frames, and one more for what is over.
  3. **The announced length** — `totalLength_natCast`: the closed form that a payload announces is that
     of its row and the empty chunk.

  The crux is `rowLength_lt`: one more byte always takes MORE ROOM, also where it fills the last slice
  or begins a new one.
-/
import Mathlib.Algebra.GroupWithZero.Nat
import SigV4.Proofs.Payload.Framing

namespace SigV4

/-! ## One frame -/

namespace Hex

/-- A number is written with no more digits than a greater one. -/
theorem length_ofNat_mono {m n : Nat} (h : m ≤ n) : (ofNat m).length ≤ (ofNat n).length := by
  induction n using Nat.strongRecOn generalizing m with
  | ind n ih =>
    rw [ofNat.eq_def m, ofNat.eq_def n]
    by_cases hn : n < 16
    · rw [if_pos hn, if_pos (by omega)]
      exact Nat.le_refl 1
    · rw [if_neg hn]
      by_cases hm : m < 16
      · rw [if_pos hm]
        simp
      · rw [if_neg hm]
        have hdiv := ih (n / 16) (by omega) (Nat.div_le_div_right (c := 16) h)
        simpa using hdiv

end Hex

namespace Framing

/-- How long the frame of `n` bytes is. -/
def frameLength (n : Nat) : Nat := (Hex.ofNat n).length + 85 + n

/-- A chunk of less than sixteen bytes names its length in one digit. -/
theorem frameLength_of_lt {n : Nat} (h : n < 16) : frameLength n = 86 + n := by
  rw [frameLength, Hex.ofNat, if_pos h, List.length_singleton]

theorem frameLength_lt {m n : Nat} (h : m < n) : frameLength m < frameLength n := by
  have := Hex.length_ofNat_mono (Nat.le_of_lt h)
  unfold frameLength
  omega

/-- A chunk on the wire is as long as its frame is said to be. -/
theorem length_frame_hexDigest (key message chunk : Bytes) :
    (ChunkSigner.frame (Hmac.hexDigest key message) chunk).length = frameLength chunk.length := by
  have hmark : Frame.mark.length = 17 := rfl
  rw [ChunkSigner.length_frame, Hmac.length_hexDigest, hmark, frameLength]

/-! ## A row -/

/-- A row is as long as its frames are together. -/
theorem length_row (key : Bytes) (timestamp scope previous : String) (chunks : List Bytes) :
    (row key timestamp scope previous chunks).flatten.length
      = (chunks.map fun chunk => frameLength chunk.length).sum := by
  induction chunks generalizing previous with
  | nil => rfl
  | cons chunk chunks ih =>
    rw [row, List.flatten_cons, List.length_append, ih, List.map_cons, List.sum_cons]
    congr 1
    exact length_frame_hexDigest _ _ chunk

/-- How long the row of the slices of `n` bytes is. -/
def rowLength (size n : Nat) : Nat :=
  n / size * frameLength size + if n % size = 0 then 0 else frameLength (n % size)

theorem rowLength_zero (size : Nat) : rowLength size 0 = 0 := by
  simp [rowLength]

/-- Up to one slice, a row is a single frame. -/
theorem rowLength_of_le {size n : Nat} (h0 : 0 < n) (h : n ≤ size) :
    rowLength size n = frameLength n := by
  unfold rowLength
  rcases Nat.lt_or_eq_of_le h with hlt | rfl
  · rw [Nat.div_eq_of_lt hlt, Nat.mod_eq_of_lt hlt, if_neg (by omega)]
    omega
  · rw [Nat.div_self h0, Nat.mod_self, if_pos rfl]
    omega

/-- Beyond one slice, a full frame comes first. -/
theorem rowLength_of_ge {size n : Nat} (h0 : 0 < size) (h : size ≤ n) :
    rowLength size n = frameLength size + rowLength size (n - size) := by
  unfold rowLength
  rw [Nat.div_eq_sub_div h0 h, Nat.mod_eq_sub_mod h, Nat.succ_mul]
  omega

/-- **The slices of a payload take as much room as its length tells.** -/
theorem sum_slices {size : Nat} (h0 : 0 < size) (payload : Bytes) :
    ((slices size payload).map fun chunk => frameLength chunk.length).sum
      = rowLength size payload.length := by
  fun_induction slices size payload with
  | case1 payload h ih =>
    have hpos : 0 < payload.length := List.length_pos_iff.mpr h.2
    rw [List.map_cons, List.sum_cons, ih, List.length_take, List.length_drop]
    rcases Nat.le_total payload.length size with hle | hge
    · rw [Nat.min_eq_right hle, Nat.sub_eq_zero_of_le hle, rowLength_zero, rowLength_of_le hpos hle]
      rfl
    · rw [Nat.min_eq_left hge, rowLength_of_ge h0 hge]
  | case2 payload h =>
    have hnil : payload = [] := Decidable.of_not_not fun he => h ⟨h0, he⟩
    rw [hnil, List.length_nil, rowLength_zero]
    rfl

/-- One more byte takes more room. -/
theorem rowLength_lt_succ {size : Nat} (h0 : 0 < size) (n : Nat) :
    rowLength size n < rowLength size (n + 1) := by
  induction n using Nat.strongRecOn with
  | ind n ih =>
    rcases Nat.lt_or_ge n size with hlt | hge
    · rw [rowLength_of_le (Nat.succ_pos n) hlt]
      rcases Nat.eq_zero_or_pos n with rfl | hpos
      · rw [rowLength_zero, frameLength]
        omega
      · rw [rowLength_of_le hpos (Nat.le_of_lt hlt)]
        exact frameLength_lt (Nat.lt_succ_self n)
    · -- behind a full frame the same question comes up for what is left
      have hrest := ih (n - size) (by omega)
      have hsub : n + 1 - size = n - size + 1 := by omega
      rw [rowLength_of_ge h0 hge, rowLength_of_ge h0 (Nat.le_succ_of_le hge), hsub]
      omega

/-- **A LONGER PAYLOAD HAS A LONGER ROW.** -/
theorem rowLength_lt {size m n : Nat} (h0 : 0 < size) (h : m < n) :
    rowLength size m < rowLength size n := by
  induction n with
  | zero => omega
  | succ n ih =>
    have hstep := rowLength_lt_succ h0 n
    rcases Nat.lt_or_eq_of_le (Nat.le_of_lt_succ h) with hlt | rfl
    · exact Nat.lt_trans (ih hlt) hstep
    · exact hstep

theorem rowLength_le {size m n : Nat} (h0 : 0 < size) (h : m ≤ n) :
    rowLength size m ≤ rowLength size n := by
  rcases Nat.lt_or_eq_of_le h with hlt | rfl
  · exact Nat.le_of_lt (rowLength_lt h0 hlt)
  · exact Nat.le_refl _

/-! ## The announced length -/

theorem length_natCast (n : Nat) : Frame.length (n : Int) = (frameLength n : Int) := by
  have hhex : Hex.ofInt (n : Int) = Hex.ofNat n := by
    have hn : ¬(n : Int) < 0 := by omega
    rw [Hex.ofInt, if_neg hn, Int.natAbs_natCast]
  have hmark : Frame.mark.length = 17 := rfl
  have hend : Frame.lineEnd.length = 2 := rfl
  rw [Frame.length, hhex, hmark, hend, Frame.signatureLength, frameLength]
  omega

/-- **What a payload announces is the length of its row and of the empty chunk.** -/
theorem totalLength_natCast {size : Nat} (h0 : 0 < size) (n : Nat) :
    Frame.totalLength (n : Int) (size : Int)
      = .ok ((rowLength size n + frameLength 0 : Nat) : Int) := by
  have hne : ¬(size : Int) = 0 := by omega
  have hzero : Frame.length 0 = (frameLength 0 : Int) := length_natCast 0
  rw [Frame.totalLength, if_neg hne]
  show Except.ok (Int.fdiv _ _ * Frame.length size
    + (if Int.fmod _ _ = 0 then 0 else Frame.length (Int.fmod _ _)) + Frame.length 0) = _
  rw [← Int.ofNat_fdiv, ← Int.ofNat_fmod, length_natCast, length_natCast, hzero, rowLength]
  by_cases hr : n % size = 0
  · rw [if_pos hr, if_pos (by omega)]
    push_cast
    rfl
  · rw [if_neg hr, if_neg (by omega)]
    push_cast
    rfl

/-- A payload of a single short chunk is announced by the frames of that chunk and of the empty one. -/
theorem totalLength_of_lt {size n : Nat} (hpos : 0 < n) (hn : n ≤ size) (h : n < 16) :
    Frame.totalLength (n : Int) (size : Int) = .ok ((172 + n : Nat) : Int) := by
  rw [totalLength_natCast (Nat.lt_of_lt_of_le hpos hn), rowLength_of_le hpos hn,
    frameLength_of_lt h, frameLength_of_lt (by decide)]
  congr 2
  omega

/-- The framing of a payload is AS LONG AS ANNOUNCED. -/
theorem length_ofPayload {size : Nat} (h0 : 0 < size) (s : ChunkSigner) (payload : Bytes) :
    (ofPayload s size payload).flatten.length = rowLength size payload.length + frameLength 0 := by
  rw [ofPayload, length_row, List.map_append, List.sum_append, sum_slices h0]
  rfl

end Framing

end SigV4
