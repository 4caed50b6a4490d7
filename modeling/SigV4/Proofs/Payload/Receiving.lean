/-
  RECEIVING a payload in signed chunks.

  1. **Decoding** — `Receiving.decode` takes one frame off some bytes BY ITS LENGTHS: digits up to the
     mark, a signature of sixty-four digits, a line end, as many bytes as the digits say, a line end.  The
     bytes of the chunk are not looked at; they may look like line ends and frames themselves.
  2. **Walking** — `walk` decodes frame after frame, the first one behind a seed, and accepts a chunk only
     if its signature is the one over the signature before it.  It stops behind the first empty chunk.
  3. **What was framed is accepted** — `decode_wire` for one frame, `walk_row` for a row of them.

  The crux is that digits hold no semicolon, so that the FIRST mark is the one behind the digits.
-/
import SigV4.Proofs.Payload.Framing
import SigV4.Proofs.Text.Hex

namespace SigV4.Receiving

/-! ## Decoding -/

/-- Bytes as ASCII characters. -/
def asciiChars (bs : Bytes) : List Char := bs.map fun b => Char.ofNat b.toNat

/-- The mark between the length of a chunk and its signature. -/
def mark : Bytes := ChunkSigner.asciiBytes Frame.mark

/-- What stands before the first mark, and what stands behind it. -/
def upTo (mark : Bytes) : Bytes → Option (Bytes × Bytes)
  | [] => none
  | b :: bs =>
    if mark.isPrefixOf (b :: bs) then some ([], (b :: bs).drop mark.length)
    else (upTo mark bs).map fun (before, behind) => (b :: before, behind)

/-- The first `n` bytes, if there are so many, and those behind them. -/
def takeExactly (n : Nat) (bs : Bytes) : Option (Bytes × Bytes) :=
  if n ≤ bs.length then some (bs.take n, bs.drop n) else none

/-- What stands behind a line end. -/
def afterLineEnd : Bytes → Option Bytes
  | 13 :: 10 :: bs => some bs
  | _ => none

/-- Whether some bytes are hexadecimal digits. -/
def areDigits (bs : Bytes) : Bool := (asciiChars bs).all fun c => (Hex.value? c).isSome

/-- A chunk as it was received. -/
structure Chunk where
  signature : String
  data : Bytes

/-- **Takes the first frame off,** by its lengths. -/
def decode (bs : Bytes) : Option (Chunk × Bytes) := do
  let (digits, bs) ← upTo mark bs
  let size ← Hex.toNat? (asciiChars digits)
  let (sig, bs) ← (takeExactly Frame.signatureLength bs).filter fun taken => areDigits taken.1
  let bs ← afterLineEnd bs
  let (data, bs) ← takeExactly size bs
  let bs ← afterLineEnd bs
  return (⟨String.ofList (asciiChars sig), data⟩, bs)

theorem length_upTo {mark bs before behind : Bytes} (h : upTo mark bs = some (before, behind)) :
    behind.length ≤ bs.length := by
  induction bs generalizing before with
  | nil => exact nomatch h
  | cons b bs ih =>
    rw [upTo] at h
    split at h
    · rw [← (Prod.mk.inj (Option.some.inj h)).2, List.length_drop]
      omega
    · obtain ⟨⟨before', behind'⟩, hrest, hpair⟩ := Option.map_eq_some_iff.mp h
      obtain ⟨-, rfl⟩ := Prod.mk.inj hpair
      have := ih hrest
      rw [List.length_cons]
      omega

theorem length_takeExactly {n : Nat} {bs first behind : Bytes}
    (h : takeExactly n bs = some (first, behind)) : behind.length + n = bs.length := by
  unfold takeExactly at h
  split at h
  · rw [← (Prod.mk.inj (Option.some.inj h)).2, List.length_drop]
    omega
  · exact nomatch h

theorem length_afterLineEnd {bs behind : Bytes} (h : afterLineEnd bs = some behind) :
    behind.length ≤ bs.length := by
  unfold afterLineEnd at h
  split at h
  · rw [← Option.some.inj h, List.length_cons, List.length_cons]
    omega
  · exact nomatch h

/-- A frame is NOT EMPTY. -/
theorem length_decode {bs behind : Bytes} {chunk : Chunk} (h : decode bs = some (chunk, behind)) :
    behind.length < bs.length := by
  unfold decode at h
  simp only [Option.bind_eq_bind, Option.bind_eq_some_iff, Option.filter_eq_some_iff] at h
  obtain ⟨⟨digits, bs₁⟩, hmark, size, -, ⟨sig, bs₂⟩, ⟨hsig, -⟩, bs₃, hline, ⟨data, bs₄⟩, hdata,
    bs₅, hend, hpair⟩ := h
  obtain ⟨-, rfl⟩ := Prod.mk.inj (Option.some.inj hpair)
  have h₁ : bs₁.length ≤ bs.length := length_upTo hmark
  have h₂ : bs₂.length + 64 = bs₁.length := length_takeExactly hsig
  have h₃ : bs₃.length ≤ bs₂.length := length_afterLineEnd hline
  have h₄ : bs₄.length + size = bs₃.length := length_takeExactly hdata
  have h₅ : bs₅.length ≤ bs₄.length := length_afterLineEnd hend
  omega

/-! ## Walking -/

/-- **Walks over frames,** from the signature `previous` on, and tells the chunks with bytes and what
stands behind the empty one; or nothing, where a frame is not accepted. -/
def walk (key : Bytes) (timestamp scope : String) (previous : String) (bs : Bytes) :
    Option (List Bytes × Bytes) :=
  match _ : decode bs with
  | none => none
  | some (chunk, behind) =>
    if chunk.signature
        = Hmac.hexDigest key (Utf8.ofString (Framing.text timestamp scope previous chunk.data)) then
      if chunk.data = [] then some ([], behind)
      else (walk key timestamp scope chunk.signature behind).map fun (parts, behind) =>
        (chunk.data :: parts, behind)
    else none
termination_by bs.length
decreasing_by
  rename_i h _ _
  exact length_decode h

/-! ## What was framed is accepted -/

theorem asciiChars_asciiBytes {cs : List Char} (h : ∀ c ∈ cs, c.toNat < 128) :
    asciiChars (ChunkSigner.asciiBytes cs) = cs := by
  induction cs with
  | nil => rfl
  | cons c cs ih =>
    have hc : c.toNat < UInt8.size := Nat.lt_trans (h c List.mem_cons_self) (by decide)
    show Char.ofNat (UInt8.ofNat c.toNat).toNat :: asciiChars (ChunkSigner.asciiBytes cs) = _
    rw [ih fun d hd => h d (List.mem_cons_of_mem _ hd), UInt8.toNat_ofNat_of_lt' hc,
      Char.ofNat_toNat]

/-- The first mark is the one behind bytes that do not have its first. -/
theorem upTo_append (b : UInt8) (mark' : Bytes) {bs : Bytes} (h : b ∉ bs) (behind : Bytes) :
    upTo (b :: mark') (bs ++ (b :: mark' ++ behind)) = some (bs, behind) := by
  induction bs with
  | nil =>
    rw [List.nil_append, List.cons_append, upTo, if_pos]
    · simp
    · simp [List.isPrefixOf_iff_prefix]
  | cons c bs ih =>
    have hc : b ≠ c := fun he => h (he ▸ List.mem_cons_self)
    rw [List.cons_append, upTo, if_neg, ih fun hm => h (List.mem_cons_of_mem _ hm)]
    · rfl
    · simp [List.isPrefixOf, hc]

theorem takeExactly_append (first behind : Bytes) :
    takeExactly first.length (first ++ behind) = some (first, behind) := by
  rw [takeExactly, if_pos (by simp), List.take_left, List.drop_left]

theorem asciiBytes_append (cs ds : List Char) :
    ChunkSigner.asciiBytes (cs ++ ds) = ChunkSigner.asciiBytes cs ++ ChunkSigner.asciiBytes ds :=
  List.map_append

/-- **A FRAME IS DECODED as it was written,** whatever the chunk holds and whatever stands behind it. -/
theorem decode_wire {sig : String} (hlen : sig.length = 64) (hsig : ∀ c ∈ sig.toList, Hex.IsDigit c)
    (data behind : Bytes) :
    decode (Framing.wire sig data ++ behind) = some (⟨sig, data⟩, behind) := by
  have hdigits : asciiChars (ChunkSigner.asciiBytes (Hex.ofNat data.length))
      = Hex.ofNat data.length :=
    asciiChars_asciiBytes fun c hc => (Hex.isDigit_of_mem_ofNat hc).ascii.1
  have hchars : asciiChars (ChunkSigner.asciiBytes sig.toList) = sig.toList :=
    asciiChars_asciiBytes fun c hc => (hsig c hc).ascii.1
  have hsix : (ChunkSigner.asciiBytes sig.toList).length = Frame.signatureLength := by
    rw [ChunkSigner.asciiBytes, List.length_map, String.length_toList, hlen]
    rfl
  have hall : areDigits (ChunkSigner.asciiBytes sig.toList) = true := by
    rw [areDigits, hchars, List.all_eq_true]
    intro c hc
    obtain ⟨n, hn, rfl⟩ := hsig c hc
    rw [Hex.value?_digit hn]
    rfl
  have hno : (59 : UInt8) ∉ ChunkSigner.asciiBytes (Hex.ofNat data.length) := by
    intro h
    obtain ⟨c, hc, hcode⟩ := List.mem_map.mp h
    obtain ⟨hlt, hne⟩ := (Hex.isDigit_of_mem_ofNat hc).ascii
    have hcode' := congrArg UInt8.toNat hcode
    rw [UInt8.toNat_ofNat_of_lt' (Nat.lt_trans hlt (by decide))] at hcode'
    exact hne (Char.toNat_inj.mp hcode')
  have hwire : Framing.wire sig data ++ behind
      = ChunkSigner.asciiBytes (Hex.ofNat data.length) ++ (mark
        ++ (ChunkSigner.asciiBytes sig.toList ++ (13 :: 10 :: (data ++ (13 :: 10 :: behind))))) := by
    rw [Framing.wire, asciiBytes_append, asciiBytes_append]
    simp only [List.append_assoc, List.cons_append, List.nil_append]
    rfl
  obtain ⟨mark', hmark⟩ : ∃ mark', mark = 59 :: mark' := ⟨_, rfl⟩
  rw [hwire, decode, hmark, upTo_append 59 mark' hno]
  simp only [Option.bind_eq_bind, Option.bind_some, hdigits, Hex.toNat?_ofNat]
  rw [← hsix, takeExactly_append]
  simp only [Option.filter_some, hall, if_true, Option.bind_some, afterLineEnd]
  rw [takeExactly_append]
  simp only [Option.bind_some, hchars, String.ofList_toList]
  rfl

/-- A chunk that is signed behind `previous` is accepted behind it, and the walk goes on behind ITS
signature. -/
theorem walk_wire (key : Bytes) (timestamp scope previous : String) (part behind : Bytes) :
    let sig := Hmac.hexDigest key (Utf8.ofString (Framing.text timestamp scope previous part))
    walk key timestamp scope previous (Framing.wire sig part ++ behind)
      = if part = [] then some ([], behind)
        else (walk key timestamp scope sig behind).map fun (parts, behind) =>
          (part :: parts, behind) := by
  intro sig
  have hdecode : decode (Framing.wire sig part ++ behind) = some (⟨sig, part⟩, behind) :=
    decode_wire (Hmac.length_hexDigest _ _)
      (fun c hc => Hex.isDigit_of_mem_ofBytes (by simpa [sig, Hmac.hexDigest] using hc)) part behind
  rw [walk]
  split
  · rename_i hd
    rw [hdecode] at hd
    cases hd
  · rename_i chunk behind' hd
    rw [hdecode] at hd
    obtain ⟨rfl, rfl⟩ := Prod.mk.inj (Option.some.inj hd)
    rw [if_pos rfl]

/-- **A ROW OF CHUNKS IS ACCEPTED** from its seed on, up to its empty chunk. -/
theorem walk_row (key : Bytes) (timestamp scope previous : String) {parts : List Bytes}
    (h : ∀ part ∈ parts, part ≠ []) (behind : Bytes) :
    walk key timestamp scope previous
        ((Framing.row key timestamp scope previous (parts ++ [[]])).flatten ++ behind)
      = some (parts, behind) := by
  induction parts generalizing previous with
  | nil =>
    rw [List.nil_append, Framing.row, Framing.row, List.flatten_cons, List.flatten_nil,
      List.append_nil, walk_wire, if_pos rfl]
  | cons part parts ih =>
    rw [List.cons_append, Framing.row, List.flatten_cons, List.append_assoc, walk_wire,
      if_neg (h part List.mem_cons_self), ih _ fun p hp => h p (List.mem_cons_of_mem _ hp)]
    rfl

end SigV4.Receiving
