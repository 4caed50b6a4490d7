/-
  Signing a payload CHUNK BY CHUNK.

  Every chunk is signed together with the signature of the chunk before it; the first one takes the
  signature of the request.  An empty chunk ends the payload, and nothing can be signed after it.

  1. **State** — `ready` before the first chunk, `signing` after a chunk with bytes, `terminal` after
     the empty one.
  2. **A step** — `sign` gives the frame of a chunk and the signer for the next.
  3. **Sizes** — `length_frame_le`: a frame is at most eighty-seven times as long as its chunk, or
     eighty-six bytes if that is empty.  This is what bounds the reading of framed payloads.
-/
import SigV4.Notice
import SigV4.Payload.FrameLength
import SigV4.Scope

namespace SigV4

/-- How far a payload has been signed. -/
inductive ChunkState where
  | ready
  | signing
  | terminal
deriving DecidableEq, Repr

/-- A signer for the chunks of one payload. -/
structure ChunkSigner where
  key : Bytes
  scope : String
  timestamp : String
  /-- The signature of what was signed last. -/
  previous : String
  state : ChunkState := .ready
  /-- How many chunks have been signed. -/
  count : Nat := 0

/-- A chunk that has been signed. -/
structure SignedChunk where
  frame : Bytes
  signer : ChunkSigner
  notice : Notice

namespace ChunkSigner

/-- The name of the method by which chunks are signed. -/
def algorithm : String := "AWS4-HMAC-SHA256-PAYLOAD"

/-- **The text that is signed for a chunk.** -/
def stringToSign (s : ChunkSigner) (chunk : Bytes) : String :=
  algorithm ++ "\n" ++ s.timestamp ++ "\n" ++ s.scope ++ "\n" ++ s.previous ++ "\n"
    ++ Sha256.hexDigest [] ++ "\n" ++ Sha256.hexDigest chunk

/-- The signature of a chunk. -/
def signatureOf (s : ChunkSigner) (chunk : Bytes) : String :=
  signature s.key (s.stringToSign chunk)

/-- ASCII characters as bytes. -/
def asciiBytes (cs : List Char) : Bytes := cs.map fun c => UInt8.ofNat c.toNat

/-- The frame of a chunk. -/
def frame (signature : String) (chunk : Bytes) : Bytes :=
  asciiBytes (Hex.ofNat chunk.length ++ Frame.mark ++ signature.toList) ++ Frame.lineEnd ++ chunk
    ++ Frame.lineEnd

/-- The signer after a chunk. -/
def advance (s : ChunkSigner) (chunk : Bytes) : ChunkSigner :=
  { s with
    previous := s.signatureOf chunk
    state := if chunk.isEmpty then .terminal else .signing
    count := s.count + 1 }

/-- **Signs the next chunk.** -/
def sign (s : ChunkSigner) (chunk : Bytes) : Except Fault SignedChunk :=
  if s.state = .terminal then .error .chunkAfterTerminal
  else
    let notice : Notice :=
      if chunk.isEmpty then .terminalSigned (s.count + 1)
      else .chunkSigned (s.count + 1) chunk.length
    .ok ⟨frame (s.signatureOf chunk) chunk, s.advance chunk, notice⟩

/-! ## Sizes -/

theorem length_frame (sig : String) (chunk : Bytes) :
    (frame sig chunk).length
      = (Hex.ofNat chunk.length).length + Frame.mark.length + sig.length + 4 + chunk.length := by
  have hl : Frame.lineEnd.length = 2 := rfl
  simp only [frame, asciiBytes, List.length_append, List.length_map, String.length_toList, hl]
  omega

/-- A frame is at most EIGHTY-SEVEN TIMES as long as its chunk, or eighty-six bytes long. -/
theorem length_frame_le (s : ChunkSigner) (chunk : Bytes) :
    (frame (s.signatureOf chunk) chunk).length
      ≤ if chunk.isEmpty then 86 else 87 * chunk.length := by
  have hm : Frame.mark.length = 17 := rfl
  have hd := Hex.length_ofNat_le chunk.length
  rw [length_frame, signatureOf, length_signature, hm]
  cases chunk with
  | nil => simp at hd ⊢; omega
  | cons b bs => simp at hd ⊢; omega

end ChunkSigner

end SigV4
