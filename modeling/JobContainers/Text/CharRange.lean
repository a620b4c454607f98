set_option autoImplicit false

namespace JobContainers

/-- Every `step`-th code point from a first to a last one. -/
abbrev CharRange := Nat × Nat × Nat

namespace CharRange

def first (r : CharRange) : Nat := r.1

def last (r : CharRange) : Nat := r.2.1

def step (r : CharRange) : Nat := r.2.2

def holds (r : CharRange) (n : Nat) : Bool :=
  r.first ≤ n && n ≤ r.last && (n - r.first) % r.step = 0

end CharRange

def inRanges (ranges : List CharRange) (c : Char) : Bool := ranges.any (·.holds c.toNat)

end JobContainers
