set_option autoImplicit false

namespace JobContainers.Width

def limit (bits : Nat) : Nat := Nat.pow 2 bits

/-- The greatest number with a sign, which takes one of the bits. -/
def most (bits : Nat) : Int := limit (bits - 1) - 1

def least (bits : Nat) : Int := -limit (bits - 1)

def holds (bits : Nat) (n : Int) : Bool := least bits ≤ n && n ≤ most bits

end JobContainers.Width
