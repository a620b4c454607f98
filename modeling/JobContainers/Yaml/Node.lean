import JobContainers.Decimal
import JobContainers.Width
import JobContainers.Yaml.Event
import JobContainers.Yaml.Input

/-!
Document nodes. Plain scalars are typed by their text; a mapping has no two equal keys. A node that
cannot be read as what its tag says, or refers to itself, is `bad`.
-/

set_option autoImplicit false

namespace JobContainers.Yaml

inductive Node where
  | null
  | bool (value : Bool)
  | int (value : Int)
  | real (text : String)
  | string (text : String)
  | sequence (items : List Node)
  | mapping (entries : List (Node × Node))
  | alias (anchor : Nat)
  | bad

namespace Node

mutual

def decEq : (a b : Node) → Decidable (a = b)
  | .null, .null | .bad, .bad => isTrue rfl
  | .bool a, .bool b => decidable_of_iff (a = b) (by simp)
  | .int a, .int b => decidable_of_iff (a = b) (by simp)
  | .real a, .real b => decidable_of_iff (a = b) (by simp)
  | .string a, .string b => decidable_of_iff (a = b) (by simp)
  | .alias a, .alias b => decidable_of_iff (a = b) (by simp)
  | .sequence a, .sequence b => @decidable_of_iff _ (a = b) (by simp) (decEqItems a b)
  | .mapping a, .mapping b => @decidable_of_iff _ (a = b) (by simp) (decEqEntries a b)
  | .null, .bool _ | .null, .int _ | .null, .real _ | .null, .string _ | .null, .sequence _
  | .null, .mapping _ | .null, .alias _ | .null, .bad
  | .bool _, .null | .bool _, .int _ | .bool _, .real _ | .bool _, .string _
  | .bool _, .sequence _ | .bool _, .mapping _ | .bool _, .alias _ | .bool _, .bad
  | .int _, .null | .int _, .bool _ | .int _, .real _ | .int _, .string _ | .int _, .sequence _
  | .int _, .mapping _ | .int _, .alias _ | .int _, .bad
  | .real _, .null | .real _, .bool _ | .real _, .int _ | .real _, .string _
  | .real _, .sequence _ | .real _, .mapping _ | .real _, .alias _ | .real _, .bad
  | .string _, .null | .string _, .bool _ | .string _, .int _ | .string _, .real _
  | .string _, .sequence _ | .string _, .mapping _ | .string _, .alias _ | .string _, .bad
  | .sequence _, .null | .sequence _, .bool _ | .sequence _, .int _ | .sequence _, .real _
  | .sequence _, .string _ | .sequence _, .mapping _ | .sequence _, .alias _ | .sequence _, .bad
  | .mapping _, .null | .mapping _, .bool _ | .mapping _, .int _ | .mapping _, .real _
  | .mapping _, .string _ | .mapping _, .sequence _ | .mapping _, .alias _ | .mapping _, .bad
  | .alias _, .null | .alias _, .bool _ | .alias _, .int _ | .alias _, .real _
  | .alias _, .string _ | .alias _, .sequence _ | .alias _, .mapping _ | .alias _, .bad
  | .bad, .null | .bad, .bool _ | .bad, .int _ | .bad, .real _ | .bad, .string _
  | .bad, .sequence _ | .bad, .mapping _ | .bad, .alias _ => isFalse (by simp)

def decEqItems : (a b : List Node) → Decidable (a = b)
  | [], [] => isTrue rfl
  | [], _ :: _ | _ :: _, [] => isFalse (by simp)
  | a :: as, b :: bs =>
    match decEq a b, decEqItems as bs with
    | isTrue h, isTrue h' => isTrue (by simp [h, h'])
    | isFalse h, _ => isFalse (by simp [h])
    | _, isFalse h => isFalse (by simp [h])

def decEqEntries : (a b : List (Node × Node)) → Decidable (a = b)
  | [], [] => isTrue rfl
  | [], _ :: _ | _ :: _, [] => isFalse (by simp)
  | (k, a) :: as, (l, b) :: bs =>
    match decEq k l, decEq a b, decEqEntries as bs with
    | isTrue h, isTrue h', isTrue h'' => isTrue (by simp [h, h', h''])
    | isFalse h, _, _ => isFalse (by simp [h])
    | _, isFalse h, _ => isFalse (by simp [h])
    | _, _, isFalse h => isFalse (by simp [h])

end

instance : DecidableEq Node := decEq

end Node

/-! Scalars -/

def integer64? (cs : List Char) : Option Int := (Decimal.integer? cs).filter (Width.holds 64)

def radix64? (base : Nat) (isDigit : Char → Bool) (cs : List Char) : Option Int :=
  let (negative, ds) := Decimal.splitSign cs
  if ds.isEmpty || !ds.all isDigit then none
  else
    let n : Int := ds.foldl (fun n c => n * base + hexValue c) 0
    some (if negative then -n else n) |>.filter (Width.holds 64)

def isOctalDigit (c : Char) : Bool := '0' ≤ c && c ≤ '7'

def dottedNames : List String :=
  [".inf", ".Inf", ".INF", "+.inf", "+.Inf", "+.INF", "-.inf", "-.Inf", "-.INF",
    ".nan", "NaN", ".NAN"]

def nonFiniteNames : List String := ["inf", "infinity", "nan"]

def isNonFinite (cs : List Char) : Bool :=
  nonFiniteNames.contains (.ofList ((Decimal.splitSign cs).2.map Char.toLower))

def readsAsFloat (text : String) : Bool :=
  isNonFinite text.toList || (Decimal.ofChars? text.toList).isSome

def isReal (text : String) : Bool := dottedNames.contains text || readsAsFloat text

def markedInteger? : List Char → Option Int
  | '0' :: 'x' :: cs => radix64? 16 isHexDigit cs
  | '0' :: 'o' :: cs => radix64? 8 isOctalDigit cs
  | '+' :: cs => integer64? cs
  | _ => none

def Node.ofPlain (text : String) : Node :=
  match markedInteger? text.toList with
  | some n => .int n
  | none =>
    if text = "" ∨ text = "~" ∨ text = "null" then .null
    else if text = "true" then .bool true
    else if text = "false" then .bool false
    else match integer64? text.toList with
      | some n => .int n
      | none => if isReal text then .real text else .string text

/-- A plain scalar with a tag: the core types demand their own spelling, any other tag leaves the
text alone. -/
def Node.ofTagged (tag : Tag) (text : String) : Node :=
  if tag.handle = coreHandle then
    match tag.suffix with
    | "bool" => if text = "true" then .bool true else if text = "false" then .bool false else .bad
    | "int" => ((integer64? text.toList).map Node.int).getD .bad
    | "float" => if isReal text then .real text else .bad
    | "null" => if text = "~" ∨ text = "null" then .null else .bad
    | _ => .string text
  else .string text

def Node.ofScalar (plain : Bool) (text : String) (tag : Option Tag) : Node :=
  if !plain then .string text
  else match tag with
    | some tag => .ofTagged tag text
    | none => .ofPlain text

/-! Collections -/

inductive Frame where
  | sequence (anchor : Option Nat) (items : List Node)
  | mapping (anchor : Option Nat) (entries : List (Node × Node)) (key : Option Node)

structure Builder where
  documents : List Node
  frames : List Frame
  root : Option Node
  anchored : List (Nat × Node)

namespace Builder

def start : Builder := ⟨[], [], none, []⟩

/-- Takes a finished node into the collection around it. A mapping takes keys and values in turn;
a bad key is not kept, so that the next node takes its place. -/
def add (b : Builder) (anchor : Option Nat) (n : Node) : Option Builder :=
  let b := match anchor with
    | some a => { b with anchored := (a, n) :: b.anchored }
    | none => b
  match b.frames with
  | [] => some { b with root := some n }
  | .sequence a items :: rest => some { b with frames := .sequence a (n :: items) :: rest }
  | .mapping a entries none :: rest =>
    some { b with frames := .mapping a entries (if n = .bad then none else some n) :: rest }
  | .mapping a entries (some key) :: rest =>
    if entries.any (·.1 = key) then none
    else some { b with frames := .mapping a ((key, n) :: entries) none :: rest }

def event (b : Builder) : Event → Option Builder
  | .documentStart => some b
  | .documentEnd => some { b with documents := b.root.getD .bad :: b.documents, root := none }
  | .alias a => b.add none ((b.anchored.lookup a).getD .bad)
  | .scalar plain text anchor tag => b.add anchor (.ofScalar plain text tag)
  | .sequenceStart anchor => some { b with frames := .sequence anchor [] :: b.frames }
  | .mappingStart anchor => some { b with frames := .mapping anchor [] none :: b.frames }
  | .sequenceEnd | .mappingEnd =>
    match b.frames with
    | .sequence anchor items :: rest =>
      { b with frames := rest }.add anchor (.sequence items.reverse)
    | .mapping anchor entries _ :: rest =>
      { b with frames := rest }.add anchor (.mapping entries.reverse)
    | [] => none

def events (b : Builder) : List Event → Option Builder
  | [] => some b
  | e :: es => (b.event e).bind (·.events es)

end Builder

def Node.ofEvents? (es : List Event) : Option (List Node) :=
  (Builder.start.events es).map (·.documents.reverse)

end JobContainers.Yaml
