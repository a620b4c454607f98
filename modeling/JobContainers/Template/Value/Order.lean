import JobContainers.Binary64.Order
import JobContainers.Template.Value

set_option autoImplicit false

namespace JobContainers.Template.Value

def Kind.rank : Kind → Nat
  | .undefined => 0
  | .none => 1
  | .bool => 2
  | .number => 3
  | .string => 4
  | .sequence => 5
  | .mapping => 6
  | .series => 7
  | .other => 8

mutual

def compare : Value → Value → Ordering
  | int a, int b => Ord.compare a b
  | int a, float y => y.orderInt a
  | float x, int b => (x.orderInt b).swap
  | float x, float y => x.order y
  | bool a, bool b => Ord.compare a.toNat b.toNat
  | string a _, string b _ => Ord.compare a b
  | list .series a, list .series b => compareItems a b
  | list .series _, w => Ord.compare Kind.series.rank w.kind.rank
  | v, list .series _ => Ord.compare v.kind.rank Kind.series.rank
  | list _ a, list _ b => compareItems a b
  | map _ a, map _ b => compareEntries a b
  | a, b => Ord.compare a.kind.rank b.kind.rank

def compareItems : List Value → List Value → Ordering
  | [], [] => .eq
  | [], _ :: _ => .lt
  | _ :: _, [] => .gt
  | a :: as, b :: bs => (compare a b).then (compareItems as bs)

def compareEntries : List (Value × Value) → List (Value × Value) → Ordering
  | [], [] => .eq
  | [], _ :: _ => .lt
  | _ :: _, [] => .gt
  | (k, a) :: as, (l, b) :: bs =>
    (compare k l).then ((compare a b).then (compareEntries as bs))

end

def atKey? (entries : List (Value × Value)) (key : Value) : Option Value :=
  (entries.find? fun e => compare key e.1 = .eq).map (·.2)

/-- Booleans count as numbers. -/
def int? : Value → Option Int
  | int n => some n
  | bool b => some b.toNat
  | _ => .none

mutual

def beq : Value → Value → Bool
  | undefined _, undefined _ | none, none => true
  | string a _, string b _ => a == b
  | float x, float y => x.equals y
  | float x, int n | int n, float x => x.equalsInt n
  | float x, bool b | bool b, float x => x.equalsInt b.toNat
  | list _ a, list _ b => beqItems a b
  | map _ a, map _ b => a.length = b.length && beqEntries a b
  | function a, function b => a == b
  | a, b =>
    match int? a, int? b with
    | some m, some n => m == n
    | _, _ => false

def beqItems : List Value → List Value → Bool
  | [], [] => true
  | a :: as, b :: bs => beq a b && beqItems as bs
  | _, _ => false

def beqEntries : List (Value × Value) → List (Value × Value) → Bool
  | [], _ => true
  | (k, a) :: as, bs => (atKey? bs k).any (beq a) && beqEntries as bs

end

instance : BEq Value := ⟨beq⟩

def insertEntry (key value : Value) : List (Value × Value) → List (Value × Value)
  | [] => [(key, value)]
  | (k, v) :: rest =>
    match compare key k with
    | .lt => (key, value) :: (k, v) :: rest
    | .eq => (k, value) :: rest
    | .gt => (k, v) :: insertEntry key value rest

def sorted (entries : List (Value × Value)) : Value :=
  map .sorted (entries.foldl (fun es e => insertEntry e.1 e.2 es) [])

end JobContainers.Template.Value
