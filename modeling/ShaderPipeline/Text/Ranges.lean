namespace ShaderPipeline.Text

/-- The ranges ascend, so the search ends at the first that starts above `n`. -/
def inRanges : List (Nat × Nat) → Nat → Bool
  | [], _ => false
  | (lo, hi) :: rs, n => if n < lo then false else n ≤ hi || inRanges rs n

def rangeStart? : List (Nat × Nat) → Nat → Option Nat
  | [], _ => none
  | (lo, hi) :: rs, n => if n < lo then none else if n ≤ hi then some lo else rangeStart? rs n

end ShaderPipeline.Text
