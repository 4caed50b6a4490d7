/-
  LAYERS: framed payloads within framed payloads.

  A request that is sent in chunks can be signed once more and sent in chunks again; its body then is
  framed as many times as it was signed.  `Layer 0` is a feed, `Layer (n + 1)` a framed payload
  that is cut from `Layer n`.
-/
import SigV4.Payload.Feed
import SigV4.Payload.Framed

namespace SigV4

/-- What a payload is cut from if it has been framed `n` times. -/
def Layer : Nat → Type
  | 0 => Feed
  | n + 1 => Framed (Layer n)

namespace Layer

/-- Every layer is a supply. -/
instance supply : (n : Nat) → Supply (Layer n)
  | 0 => inferInstanceAs (Supply Feed)
  | n + 1 =>
    have : Supply (Layer n) := supply n
    inferInstanceAs (Supply (Framed (Layer n)))

/-- The source below all layers. -/
def source : (n : Nat) → Layer n → Source
  | 0, feed => Feed.source feed
  | n + 1, payload => source n (Framed.feed payload)

end Layer

end SigV4
