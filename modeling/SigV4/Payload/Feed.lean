/-
  FEEDS: what a framed payload is cut from.

  Chunks are cut synchronously.  A source that would have to be waited for can be attached, but it
  delivers nothing: every pull fails, and the source is not touched.
-/
import SigV4.Payload.Source

namespace SigV4

/-- A source as a synchronous reader meets it. -/
inductive Feed where
  /-- A source that can be read at once. -/
  | direct (source : Source)
  /-- A source that has to be waited for. -/
  | awaiting (source : Source)

namespace Feed

/-- The source behind a feed. -/
def source : Feed → Source
  | direct s => s
  | awaiting s => s

/-- **Pulls** from the source, if that is possible at once. -/
def pull (size : Nat) : Feed → Outcome Feed (Option Bytes)
  | direct s => (s.pull size).within direct
  | awaiting s => ⟨.error .sourceUnusable, awaiting s, []⟩

/-- What the source still has. -/
def weight (f : Feed) : Nat := f.source.weight

theorem pull_lightens (size : Nat) (f : Feed) : (f.pull size).Lightens weight f.weight := by
  match f with
  | direct s => exact s.pull_lightens size
  | awaiting s => trivial

instance : Supply Feed := ⟨pull, weight, pull_lightens⟩

end Feed

end SigV4
