import BufferCoherence.FlagSet.Catalogue

/-!
# Write policies

How a region of a streaming ring may be written.
-/

namespace BufferCoherence

/-- How a region of a ring may be written. -/
inductive WritePolicy where
  /-- The region overlaps nothing handed out since the last discard. -/
  | noOverwrite
  /-- The whole ring was thrown away, and the region starts at zero. -/
  | discard
deriving DecidableEq

namespace WritePolicy

/-- The name a policy is written with. -/
def name : WritePolicy → String
  | .noOverwrite => "NoOverwrite"
  | .discard => "Discard"

/-- The map flag that states a policy. -/
def flags : WritePolicy → MapFlags
  | .noOverwrite => MapFlags.noOverwrite
  | .discard => MapFlags.discard

end WritePolicy

end BufferCoherence
