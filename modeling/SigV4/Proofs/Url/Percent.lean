/-
  PERCENT-ENCODING, read back.

  1. **Reading** — what `toBytes` makes of a text that starts with an escape, or with a character that
     starts none.
  2. **Bytes** — the written form of bytes is read as those bytes (`toBytes_encode`), whatever characters
     were kept, as long as `%` was not among them.
  3. **Texts** — a text that was written is read again (`decodeText_encodeText`), digits are written as they
     are, and a written form holds none of the marks that part a query or a path (`mem_encode`).

  The crux is that `%` is the ONE character that is never kept: only therefore is a kept character not
  taken for the start of an escape.
-/
import SigV4.Proofs.Text.Hex
import SigV4.Proofs.Text.Utf8
import SigV4.Url.Percent

namespace SigV4.Percent

/-! ## Reading -/

theorem toBytes_escape (b : UInt8) (rest : List Char) :
    toBytes (escape b ++ rest) = b :: toBytes rest := by
  have hb := b.toNat_lt
  have hescaped : escaped? '%' (Hex.upperDigit (b.toNat / 16)) (Hex.upperDigit (b.toNat % 16))
      = some b := by
    unfold escaped?
    rw [if_pos rfl, Hex.value?_upperDigit (by omega), Hex.value?_upperDigit (by omega)]
    show some (UInt8.ofNat (16 * (b.toNat / 16) + b.toNat % 16)) = some b
    rw [Nat.div_add_mod, UInt8.ofNat_toNat]
  show toBytes ('%' :: _ :: _ :: rest) = _
  rw [toBytes, hescaped]

/-- A character that starts no escape stands for its UTF-8 bytes. -/
theorem toBytes_cons {c : Char} (h : c ≠ '%') (rest : List Char) :
    toBytes (c :: rest) = String.utf8EncodeChar c ++ toBytes rest := by
  match rest with
  | [] => rw [toBytes]; nofun
  | [x] => rw [toBytes]; nofun
  | hi :: lo :: rest =>
    have hescaped : escaped? c hi lo = none := if_neg h
    rw [toBytes, hescaped]

/-- Only the empty text stands for no bytes. -/
theorem toBytes_eq_nil_iff (cs : List Char) : toBytes cs = [] ↔ cs = [] := by
  constructor
  · intro h
    fun_cases toBytes cs with
    | case1 c hi lo rest b hb =>
      rw [toBytes, hb] at h
      cases h
    | case2 c hi lo rest hb =>
      obtain ⟨a, tail, hchar, -⟩ := Utf8.first_encodeChar c []
      rw [toBytes, hb, hchar] at h
      cases h
    | case3 c rest hshort =>
      obtain ⟨a, tail, hchar, -⟩ := Utf8.first_encodeChar c []
      rw [toBytes, hchar] at h
      · cases h
      · exact hshort
    | case4 => rfl
  · rintro rfl
    rfl

/-! ## Bytes -/

/-- The UTF-8 form of a character below 128 is one byte. -/
theorem utf8EncodeChar_ofByte {b : UInt8} (h : b < 0x80) :
    String.utf8EncodeChar (Char.ofNat b.toNat) = [b] := by
  have hlt : b.toNat < 128 := UInt8.lt_iff_toNat_lt.mp h
  have hvalid : b.toNat.isValidChar := .inl (by omega)
  have hval : (Char.ofNat b.toNat).val.toNat = b.toNat := by
    rw [Char.ofNat, dif_pos hvalid]
    rfl
  rw [String.utf8EncodeChar]
  simp only [hval]
  rw [if_pos (by omega), UInt8.ofNat_toNat]

/-- What holds of the characters from 128 to 255, one by one, holds of every byte that is not ASCII. -/
theorem of_not_ascii {P : Char → Prop} (h : ∀ k : Fin 128, P (Char.ofNat (128 + k))) {b : UInt8}
    (hb : 128 ≤ b.toNat) : P (Char.ofNat b.toNat) := by
  have hlt := b.toNat_lt
  have hk := h ⟨b.toNat - 128, by omega⟩
  rwa [show 128 + (b.toNat - 128) = b.toNat by omega] at hk

/-- **The written form of a byte is read as that byte.** -/
theorem toBytes_encodeByte {keep : Char → Bool} (hkeep : keep '%' = false) (b : UInt8)
    (rest : List Char) : toBytes (encodeByte keep b ++ rest) = b :: toBytes rest := by
  unfold encodeByte
  dsimp only
  split
  · rename_i h
    rw [Bool.and_eq_true, decide_eq_true_eq, Bool.or_eq_true] at h
    have hne : Char.ofNat b.toNat ≠ '%' := by
      intro he
      rw [he, hkeep] at h
      exact absurd h.2 (by decide)
    rw [List.singleton_append, toBytes_cons hne, utf8EncodeChar_ofByte h.1]
    rfl
  · exact toBytes_escape b rest

/-- **WHAT WAS WRITTEN is read again.** -/
theorem toBytes_encode {keep : Char → Bool} (hkeep : keep '%' = false) (bs : Bytes) :
    toBytes (encode keep bs) = bs := by
  induction bs with
  | nil => rfl
  | cons b bs ih => rw [encode_cons, toBytes_encodeByte hkeep, ih]

/-- What was written comes from ONE row of bytes. -/
theorem encode_injective {a b : Bytes} (h : encode (fun _ => false) a = encode (fun _ => false) b) :
    a = b := by
  have hread (bs : Bytes) : toBytes (encode (fun _ => false) bs) = bs := toBytes_encode rfl bs
  rw [← hread a, h, hread b]

/-- Bytes are written the same wherever the same of them are kept. -/
theorem encode_congr {keep keep' : Char → Bool} {bs : Bytes}
    (h : ∀ b ∈ bs, encodeByte keep b = encodeByte keep' b) : encode keep bs = encode keep' bs := by
  rw [encode, encode, List.flatMap_def, List.flatMap_def, List.map_congr_left h]

/-! ## Texts -/

theorem decodeText_encodeText (cs : List Char) : decodeText (encodeText cs) = cs := by
  rw [decodeText, encodeText, toBytes_encode rfl, Utf8.decode_encode]

/-- What is written with nothing kept consists of UNRESERVED CHARACTERS and of escapes. -/
theorem mem_encode {c : Char} {bs : Bytes} (h : c ∈ encode (fun _ => false) bs) :
    isUnreserved c = true ∨ c = '%' := by
  obtain ⟨b, -, hc⟩ := List.mem_flatMap.mp h
  have hb := b.toNat_lt
  have hdigit {n : Nat} (hn : n < 16) : isUnreserved (Hex.upperDigit n) = true :=
    (by decide : ∀ n : Fin 16, isUnreserved (Hex.upperDigit n) = true) ⟨n, hn⟩
  unfold encodeByte at hc
  dsimp only at hc
  split at hc
  · rename_i hkept
    rw [List.mem_singleton.mp hc]
    rw [Bool.and_eq_true, Bool.or_false] at hkept
    exact .inl hkept.2
  · simp only [escape, List.mem_cons, List.not_mem_nil, or_false] at hc
    rcases hc with rfl | rfl | rfl
    · exact .inr rfl
    · exact .inl (hdigit (by omega))
    · exact .inl (hdigit (by omega))

/-- A character that would have to be escaped is NOT IN the written form. -/
theorem not_mem_encode {c : Char} (hc : isUnreserved c = false) (hp : c ≠ '%') (bs : Bytes) :
    c ∉ encode (fun _ => false) bs := by
  intro h
  rcases mem_encode h with h | h
  · rw [hc] at h
    exact nomatch h
  · exact hp h

/-- Nor is it in the written form of a text. -/
theorem not_mem_encodeText {c : Char} (hc : isUnreserved c = false) (hp : c ≠ '%') (cs : List Char) :
    c ∉ encodeText cs :=
  not_mem_encode hc hp (Utf8.encode cs)

end SigV4.Percent
