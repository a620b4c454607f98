import JobContainers.Template.Filter.Number

set_option autoImplicit false

namespace JobContainers.Template.Filter

def listed (v : Value) : Except Error (List Value) :=
  match v.checkedItems with
  | .ok items => .ok items
  | .error _ => .error .invalidOperation

def pairs? (v : Value) : Option (List (Value × Value)) :=
  match v, v.kind with
  | .map _ entries, _ => some entries
  | v, .mapping =>
    v.items?.map fun keys => keys.map fun k => (k, (v.item? k).getD (.undefined false))
  | _, _ => none

def ofPairs (pairs : List (Value × Value)) : List Value := pairs.map fun e => .ofList [e.1, e.2]

def length (v : Value) : Except Error Value :=
  match v.length? with
  | some n => .ok (.int n)
  | none => .error .invalidOperation

def items (v : Value) : Except Error Value :=
  match pairs? v with
  | some pairs => .ok (.series (ofPairs pairs))
  | none => .error .invalidOperation

def reverse (v : Value) : Except Error Value :=
  match v with
  | .undefined _ | .none => .ok v
  | .string s _ => .ok (.ofChars s.toList.reverse)
  | .map .sorted entries => .ok (.series (entries.map (·.1)))
  | v =>
    match v.isObject, v.items? with
    | true, some items => .ok (.series items.reverse)
    | _, _ => .error .invalidOperation

def first (v : Value) : Except Error Value :=
  match v.isObject || v matches .string _ _, v.items? with
  | true, some items => .ok (items.head?.getD (.undefined false))
  | _, _ => .error .invalidOperation

def last (v : Value) : Except Error Value :=
  match v with
  | .string s _ => .ok ((s.toList.getLast?.map Value.ofChar).getD (.undefined false))
  | .list _ items => .ok (items.getLast?.getD (.undefined false))
  | _ => .error .invalidOperation

def least (v : Value) : Except Error Value := do
  match ← listed v with
  | [] => return .undefined false
  | v :: vs => return vs.foldl (fun best w => if w.compare best = .lt then w else best) v

def greatest (v : Value) : Except Error Value := do
  match ← listed v with
  | [] => return .undefined false
  | v :: vs => return vs.foldl (fun best w => if w.compare best = .lt then best else w) v

def sum (v : Value) : Except Error Value := do
  (← v.checkedItems).foldlM (fun total w =>
    match w.kind with
    | .undefined => .ok total
    | .number => total.add w
    | _ => .error .invalidOperation) (.int 0)

def ordered (caseMatters : Bool) (v w : Value) : Ordering :=
  match v, w, caseMatters with
  | .string s _, .string t _, false =>
    compare (String.ofList (s.toList.map Char.toLower)) (String.ofList (t.toList.map Char.toLower))
  | v, w, _ => v.compare w

def insertBehind (order : Value → Value → Ordering) (v : Value) : List Value → List Value
  | [] => [v]
  | w :: ws => if order v w = .lt then w :: insertBehind order v ws else v :: w :: ws

/-- Items in an order, equal ones in the order they come in. Few items are put in their places one
after the other, so that one that cannot be compared stays behind those before it. -/
def sortBy (order : Value → Value → Ordering) (items : List Value) : List Value :=
  if items.length ≤ 20 then (items.foldl (fun done v => insertBehind order v done) []).reverse
  else items.mergeSort fun v w => order v w != .gt

def directed (reverse : Bool) (order : Value → Value → Ordering) (v w : Value) : Ordering :=
  if reverse then order w v else order v w

def sort : Filter := do
  let named ← Taking.named
  let v ← Taking.any
  return do
    let items ← listed v
    let caseMatters ← named.flag "case_sensitive"
    let path ← named.optional "attribute" Value.asString
    let reverse ← named.flag "reverse"
    named.only ["case_sensitive", "attribute", "reverse"]
    let order := fun v w =>
      match path with
      | none => ordered caseMatters v w
      | some path =>
        match v.walk path, w.walk path with
        | .ok v, .ok w => ordered caseMatters v w
        | _, _ => .eq
    return .ofList (sortBy (directed reverse order) items)

def sortPairs : Filter := do
  let named ← Taking.named
  let v ← Taking.any
  return do
    let some pairs := pairs? v | throw .invalidOperation
    let byValue ← match ← named.optional "by" Value.asString with
      | none | some "key" => pure false
      | some "value" => pure true
      | some _ => throw .invalidOperation
    let caseMatters ← named.flag "case_sensitive"
    let reverse ← named.flag "reverse"
    named.only ["by", "case_sensitive", "reverse"]
    let column := fun (v : Value) => (v.item? (.int (if byValue then 1 else 0))).getD .none
    let order := fun v w => ordered caseMatters (column v) (column w)
    return .ofList (sortBy (directed reverse order) (ofPairs pairs))

def firstOfEach (key : Value → Value) (items : List Value) : List Value :=
  (items.foldl (fun (kept : List (Value × Value)) v =>
    let k := key v
    if kept.any fun e => e.1.compare k = .eq then kept else (k, v) :: kept) []).reverse.map (·.2)

def unique : Filter := do
  let named ← Taking.named
  let v ← Taking.any
  return do
    let path ← named.optional "attribute" Value.asString
    let caseMatters ← named.flag "case_sensitive"
    named.only ["attribute", "case_sensitive"]
    let key := fun (w : Value) =>
      match (path.map fun p => w.walkOr p (.undefined false)).getD w with
      | .string s safe => if caseMatters then .string s safe else .ofString (LetterCase.lower s)
      | k => k
    return .ofList (firstOfEach key (← v.checkedItems))

/-- Groups of neighbours with equal keys, the last group and the last of its items first. A group
has the key of its last item. -/
def addToGroups (same : Value → Value → Bool) (key item : Value) :
    List (Value × List Value) → List (Value × List Value)
  | (k, items) :: groups =>
    if same k key then (key, item :: items) :: groups else (key, [item]) :: (k, items) :: groups
  | [] => [(key, [item])]

def groupBy : Filter := do
  let named ← Taking.named
  let v ← Taking.any
  let path ← Taking.optional Value.asString
  return do
    let other := (← named.optional "default" .ok).getD (.undefined false)
    let caseMatters ← named.flag "case_sensitive"
    let (path, names) ← match path, named.get? "attribute" with
      | some path, _ => pure (path, [])
      | none, some w => pure (← w.asString, ["attribute"])
      | none, none => throw .missingArgument
    let some items := v.items? | throw .invalidOperation
    named.only ("default" :: "case_sensitive" :: names)
    let key := fun (w : Value) => w.walkOr path other
    let sorted := sortBy (fun v w => ordered caseMatters (key v) (key w)) items
    let same := fun k l => ordered caseMatters k l == .eq
    let groups := sorted.foldl (fun groups w => addToGroups same (key w) w groups) []
    return .ofList (groups.reverse.map fun g => .group g.1 g.2.reverse)

def rows (size : Nat) (filler : Option Value) (items : List Value) : List Value :=
  let all := items.toArray
  (List.range ((all.size + size - 1) / size)).map fun i =>
    let part := (all.extract (i * size) (i * size + size)).toList
    .ofList (part ++ (filler.map fun v => List.replicate (size - part.length) v).getD [])

/-- As many parts as asked for, the longer ones first; a filler goes behind each of the shorter
ones. -/
def columns (count : Nat) (filler : Option Value) (items : List Value) : List Value :=
  let all := items.toArray
  let size := all.size / count
  let longer := all.size % count
  (List.range count).map fun i =>
    let start := i * size + min i longer
    let part := fun (n : Nat) => (all.extract start (start + n)).toList
    .ofList (if i < longer then part (size + 1) else part size ++ filler.toList)

def cut (parts : Nat → Option Value → List Value → List Value) : Filter := do
  let v ← Taking.any
  let n ← Taking.one Value.asNatural
  let filler ← Taking.optional .ok
  return do
    if n = 0 then throw .invalidOperation
    return .ofList (parts n filler (← v.checkedItems))

def zip : Filter := do
  let vs ← Taking.rest
  if vs.isEmpty then throw .missingArgument
  return do
    let lists := (← vs.mapM Value.checkedItems).map List.toArray
    let size := (lists.map Array.size).min?.getD 0
    return .series ((List.range size).map fun i => .ofList (lists.filterMap (·[i]?)))

/-- Mappings as one mapping in which later ones win, lists as one list; of other values all items
in turn. -/
def chain : Filter := do
  let vs ← Taking.rest
  if vs.isEmpty then throw .missingArgument
  return do
    if vs.all fun v => v.kind = .mapping then
      return .sorted (vs.filterMap pairs?).flatten
    let items := (← vs.mapM Value.checkedItems).flatten
    return if vs.all fun v => v.kind = .sequence then .ofList items else .series items

def itemAt : Filter := do
  let v ← Taking.any
  let key ← Taking.any
  return v.found (v.item? key)

def default : Filter := do
  let v ← Taking.any
  let other ← Taking.any
  return .ok (if v.isUndefined || v.isNone then other else v)

def fallback : Filter := do
  let named ← Taking.named
  let v ← Taking.any
  let other ← Taking.next?
  let lax ← Taking.next?
  return do
    named.only ["default_value", "boolean"]
    let other := (other.or (named.get? "default_value")).getD (.ofString "")
    let lax := ((lax.or (named.get? "boolean")).map Value.truth).getD false
    return if v.isUndefined || (lax && !v.truth) then other else v

def required (v : Value) : Except Error Value :=
  if v.isUndefined then .error .requiredUndefined else .ok v

def listFilters : List (String × Filter) :=
  [("length", ofValue length), ("count", ofValue length), ("items", ofValue items),
    ("reverse", ofValue reverse), ("first", ofValue first), ("last", ofValue last),
    ("min", ofValue least), ("max", ofValue greatest), ("sum", ofValue sum),
    ("list", ofValue fun v => return .ofList (← listed v)), ("sort", sort),
    ("dictsort", sortPairs), ("unique", unique), ("groupby", groupBy), ("batch", cut rows),
    ("slice", cut columns), ("zip", zip), ("chain", chain), ("attr", itemAt),
    ("default", default), ("d", fallback), ("required", ofValue required)]

end JobContainers.Template.Filter
