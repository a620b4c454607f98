import JobContainers.Binary64
import JobContainers.Width

set_option autoImplicit false

namespace JobContainers.Binary64

def isZero (x : Binary64) : Bool :=
  match x.magnitude with
  | .finite m _ => m = 0
  | _ => false

/-- Words of doubles in their order, negative zero before zero. -/
def key (x : Binary64) : Int :=
  if x.negative then Width.most 64 - x.bits.toNat else x.bits.toNat

def order (x y : Binary64) : Ordering :=
  if x.isZero && y.isZero then .eq else Ord.compare x.key y.key

def orderInt (n : Int) (x : Binary64) : Ordering :=
  match x.magnitude with
  | .finite m e =>
    let significand : Int := if x.negative then -(m : Int) else m
    let unit : Int := (1 <<< e.natAbs : Nat)
    if 0 ≤ e then Ord.compare n (significand * unit) else Ord.compare (n * unit) significand
  | _ => if x.negative then .gt else .lt

def equals (x y : Binary64) : Bool := !x.isNaN && !y.isNaN && x.order y = .eq

def equalsInt (n : Int) (x : Binary64) : Bool := x.isFinite && orderInt n x = .eq

def whole? (x : Binary64) : Option Int :=
  match x.magnitude with
  | .finite m e =>
    let unit := 1 <<< e.natAbs
    let signed := fun (n : Nat) => if x.negative then -(n : Int) else n
    if 0 ≤ e then some (signed (m * unit))
    else if m % unit = 0 then some (signed (m / unit))
    else none
  | _ => none

end JobContainers.Binary64
