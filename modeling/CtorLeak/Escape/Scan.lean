import CtorLeak.Escape.Effect

/-!
# Walking back from a consumer

The values that an instruction takes from the stack are looked for among the instructions before
it.  Each instruction counts as one value, except that allocations and duplications are part of
another value and count for nothing.  The walk ends with the instruction that completes the count,
or at the start of the code.
-/

namespace CtorLeak

/-- An instruction that a walk visits. -/
structure ScanStep where
  index : Nat
  effect : Effect
deriving DecidableEq, Repr

namespace ScanStep

def isThisLoad (step : ScanStep) : Bool := step.effect.isThisLoad

end ScanStep

/-- Walks over instructions, the nearest first, until `values` of them are no shuffles. -/
def scan : (values : Nat) → List (Instruction × Nat) → List ScanStep
  | 0, _ => []
  | _ + 1, [] => []
  | values + 1, (i, index) :: before =>
    ⟨index, i.effect⟩ :: scan (if i.isShuffle then values + 1 else values) before

/-- Walks back from just before position `consumer`, which may lie past the end. -/
def scanBack (code : List Instruction) (consumer values : Nat) : List ScanStep :=
  scan values (code.take consumer).zipIdx.reverse

end CtorLeak
