/-
  ONE SPELLING FOR EVERY PATH.

  1. **Escapes** — an escape is respelled as the written form of ITS BYTE (`respell_eq`).
  2. **Segments** — `encodeFrom` writes gaps and escapes by turns, each with an encoder of its own.  Both
     of them write bytes, so together they write the bytes that the segment stands for
     (`encodeSegment_eq`), wherever the escapes stand.
  3. **The alphabet** — `Tidy` texts: unreserved characters, slashes, and escapes, in upper case, of bytes
     that need one.
  4. **Paths** — no slash is written for a byte, so the segments of an encoded path are the encoded
     segments (`split_encodePath`); and `encodePath_spells` tells which paths have one spelling.

  The crux is that a character which takes the place of its escape cannot join its neighbours into a new
  escape: `%` is never unreserved, so every `%` that is written starts an escape of its own.
-/
import SigV4.Proofs.Url.Percent
import SigV4.Url.Path

namespace SigV4.Percent

/-! ## Escapes -/

/-- A byte that is written as it is: that of an unreserved character. -/
def isPlain (b : UInt8) : Bool := isUnreserved (Char.ofNat b.toNat)

/-- Unreserved characters are ASCII. -/
theorem lt_of_isPlain {b : UInt8} (h : isPlain b = true) : b < 0x80 := by
  rw [UInt8.lt_iff_toNat_lt]
  show b.toNat < 128
  refine Nat.lt_of_not_le fun habove => ?_
  have hnot : isUnreserved (Char.ofNat b.toNat) = false :=
    of_not_ascii (P := fun c => isUnreserved c = false) (by decide) habove
  exact absurd (h.symm.trans hnot) (by decide)

/-- Where nothing more is kept, plain bytes are written as they are, and all others escaped. -/
theorem encodeByte_eq (b : UInt8) :
    encodeByte (fun _ => false) b = if isPlain b then [Char.ofNat b.toNat] else escape b := by
  unfold encodeByte
  dsimp only
  rw [Bool.or_false]
  by_cases h : isPlain b = true
  · have hlt := lt_of_isPlain h
    rw [if_pos h, if_pos (by rw [Bool.and_eq_true, decide_eq_true_eq]; exact ⟨hlt, h⟩)]
  · rw [if_neg h, if_neg (by rw [Bool.and_eq_true]; exact fun hb => h hb.2)]

theorem escaped?_eq_some {c hi lo : Char} {b : UInt8} (h : escaped? c hi lo = some b) :
    c = '%' ∧ ∃ m n, Hex.value? hi = some m ∧ Hex.value? lo = some n
      ∧ b = UInt8.ofNat (16 * m + n) := by
  unfold escaped? at h
  split at h
  · rename_i hc
    split at h
    · rename_i m n hm hn
      exact ⟨hc, m, n, hm, hn, (Option.some.inj h).symm⟩
    · cases h
  · cases h

/-! ## The alphabet -/

/-- A text of unreserved characters, slashes, and escapes, in upper case, of bytes that are not plain. -/
inductive Tidy : List Char → Prop
  | nil : Tidy []
  | char {c : Char} {rest : List Char} (hc : isUnreserved c = true ∨ c = '/') (h : Tidy rest) :
      Tidy (c :: rest)
  | escape {b : UInt8} {rest : List Char} (hb : isPlain b = false) (h : Tidy rest) :
      Tidy (Percent.escape b ++ rest)

theorem Tidy.append {a b : List Char} (ha : Tidy a) (hb : Tidy b) : Tidy (a ++ b) := by
  induction ha with
  | nil => exact hb
  | char hc _ ih => exact .char hc ih
  | escape hbyte _ ih =>
    rw [List.append_assoc]
    exact .escape hbyte ih

/-- Whatever is written for bytes is tidy. -/
theorem tidy_encode (bs : Bytes) : Tidy (encode (fun _ => false) bs) := by
  induction bs with
  | nil => exact .nil
  | cons b bs ih =>
    rw [encode_cons, encodeByte_eq]
    by_cases h : isPlain b = true
    · rw [if_pos h]
      exact .char (.inl h) ih
    · rw [if_neg h]
      exact .escape (Bool.not_eq_true _ ▸ h) ih

/-- Slashes between tidy pieces leave them tidy. -/
theorem tidy_join {pieces : List (List Char)} (h : ∀ piece ∈ pieces, Tidy piece) :
    Tidy (Text.join '/' pieces) := by
  induction pieces with
  | nil => exact .nil
  | cons piece rest ih =>
    have hpiece := h piece List.mem_cons_self
    have hrest := ih fun p hp => h p (List.mem_cons_of_mem piece hp)
    cases rest with
    | nil => exact hpiece
    | cons next rest => exact hpiece.append (.char (.inr rfl) hrest)

end SigV4.Percent

namespace SigV4.Path

open Text

/-! ## Segments -/

/-- **An escape is respelled as the written form of its byte.** -/
theorem respell_eq {c hi lo : Char} {b : UInt8} (h : Percent.escaped? c hi lo = some b) :
    respell hi lo b = Percent.encodeByte (fun _ => false) b := by
  obtain ⟨-, m, n, hm, hn, rfl⟩ := Percent.escaped?_eq_some h
  obtain ⟨hm16, hhi⟩ := Hex.toUpper_of_value? hm
  obtain ⟨hn16, hlo⟩ := Hex.toUpper_of_value? hn
  have hbyte : (UInt8.ofNat (16 * m + n)).toNat = 16 * m + n :=
    UInt8.toNat_ofNat_of_lt' (show 16 * m + n < 256 by omega)
  have hescape : Percent.escape (UInt8.ofNat (16 * m + n)) = ['%', hi.toUpper, lo.toUpper] := by
    rw [Percent.escape, hbyte, hhi, hlo, show (16 * m + n) / 16 = m by omega,
      show (16 * m + n) % 16 = n by omega]
  rw [Percent.encodeByte_eq, hescape]
  rfl

/-- What is left of a segment is written as ITS BYTES ARE, behind those of the gap. -/
theorem encodeFrom_eq (gap cs : List Char) :
    encodeFrom gap cs
      = Percent.encode (fun _ => false) (Utf8.encode gap.reverse ++ Percent.toBytes cs) := by
  fun_induction encodeFrom gap cs with
  | case1 gap c hi lo rest b hb ih =>
    -- an escape: the gap is written, and the escape as its byte
    rw [ih, respell_eq hb, Percent.toBytes, hb]
    show Percent.encode _ (Utf8.encode gap.reverse) ++ Percent.encodeByte _ b
        ++ Percent.encode _ (Percent.toBytes rest)
      = Percent.encode _ (Utf8.encode gap.reverse ++ b :: Percent.toBytes rest)
    rw [Percent.encode_append, Percent.encode_cons, List.append_assoc]
  | case2 gap c hi lo rest hb ih =>
    rw [ih, Percent.toBytes, hb, List.reverse_cons, Utf8.encode_append, List.append_assoc]
    simp
  | case3 gap c rest hshort ih =>
    -- too short for an escape
    rw [ih, Percent.toBytes, List.reverse_cons, Utf8.encode_append, List.append_assoc]
    · simp
    · exact hshort
  | case4 gap =>
    rw [Percent.toBytes, List.append_nil]
    rfl

/-- **A segment is written as the bytes that it stands for.** -/
theorem encodeSegment_eq (segment : List Char) :
    encodeSegment segment = Percent.encode (fun _ => false) (Percent.toBytes segment) :=
  encodeFrom_eq [] segment

/-- Encoding a segment does not change what it stands for. -/
theorem toBytes_encodeSegment (segment : List Char) :
    Percent.toBytes (encodeSegment segment) = Percent.toBytes segment := by
  rw [encodeSegment_eq, Percent.toBytes_encode rfl]

theorem not_mem_encodeSegment (segment : List Char) : '/' ∉ encodeSegment segment := by
  rw [encodeSegment_eq]
  exact Percent.not_mem_encode rfl (by decide) _

/-! ## Paths -/

/-- The segments of the encoded path are the encoded segments. -/
theorem split_encodePath (path : List Char) :
    split '/' (encodePath path) = (split '/' path).map encodeSegment :=
  split_join_map not_mem_encodeSegment path

/-- What the segments of a path stand for is not changed. -/
theorem toBytes_split_encodePath (path : List Char) :
    (split '/' (encodePath path)).map Percent.toBytes = (split '/' path).map Percent.toBytes := by
  rw [split_encodePath, List.map_map]
  exact List.map_congr_left fun segment _ => toBytes_encodeSegment segment

/-- Paths are written the same IF AND ONLY IF their segments stand for the same bytes. -/
theorem encodePath_eq_iff (p q : List Char) :
    encodePath p = encodePath q
      ↔ (split '/' p).map Percent.toBytes = (split '/' q).map Percent.toBytes := by
  constructor
  · intro h
    rw [← toBytes_split_encodePath p, h, toBytes_split_encodePath q]
  · intro h
    have hwritten (path : List Char) : (split '/' path).map encodeSegment
        = ((split '/' path).map Percent.toBytes).map (Percent.encode fun _ => false) := by
      rw [List.map_map]
      exact List.map_congr_left fun segment _ => encodeSegment_eq segment
    rw [encodePath, encodePath, hwritten p, hwritten q, h]

/-- An encoded path is encoded already. -/
theorem encodePath_encodePath (path : List Char) :
    encodePath (encodePath path) = encodePath path :=
  (encodePath_eq_iff _ _).mpr (toBytes_split_encodePath path)

/-- **Every path has ONE spelling, and the encoded path is it.**  Two paths are written the same if and
only if they have as many segments and these stand for the same bytes; what is written stands for those
bytes, holds nothing that could be spelled otherwise, and is not changed when it is encoded again. -/
theorem encodePath_spells (p q : List Char) :
    (encodePath p = encodePath q
        ↔ (split '/' p).map Percent.toBytes = (split '/' q).map Percent.toBytes)
      ∧ (split '/' (encodePath p)).map Percent.toBytes = (split '/' p).map Percent.toBytes
      ∧ Percent.Tidy (encodePath p)
      ∧ encodePath (encodePath p) = encodePath p := by
  have htidy : Percent.Tidy (encodePath p) := by
    refine Percent.tidy_join ?_
    intro piece hpiece
    obtain ⟨segment, -, rfl⟩ := List.mem_map.mp hpiece
    rw [encodeSegment_eq]
    exact Percent.tidy_encode _
  exact ⟨encodePath_eq_iff p q, toBytes_split_encodePath p, htidy, encodePath_encodePath p⟩

example : encodePath "/a b%7e/%2f100%zz".toList = "/a%20b~/%2F100%25zz".toList := by decide

end SigV4.Path
