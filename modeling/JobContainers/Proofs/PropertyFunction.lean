import JobContainers.Proofs.PropertyPaths
import JobContainers.Template.Context

/-!
The property function of templates. It goes down through values, one property after the other, where
a property tree is looked up segment by segment; on values made of trees both find the same.
-/

set_option autoImplicit false

namespace JobContainers.Template

open Property

namespace Value

theorem ofItems_eq_map (items : List Tree) : ofItems items = items.map ofTree := by
  induction items with
  | nil => rfl
  | cons t items ih => rw [ofItems, ih, List.map_cons]

theorem ofEntries_eq_map (entries : List (String × Tree)) :
    ofEntries entries = entries.map fun e => (ofString e.1, ofTree e.2) := by
  induction entries with
  | nil => rfl
  | cons e entries ih => rw [ofEntries, ih, List.map_cons]

theorem compare_ofString (key other : String) :
    compare (ofString key) (ofString other) = .eq ↔ key = other := by
  simp [ofString, compare]

theorem atKey?_ofEntries (entries : List (String × Tree)) (key : String) :
    atKey? (ofEntries entries) (ofString key) = (entries.lookup key).map ofTree := by
  induction entries with
  | nil => rfl
  | cons e entries ih =>
      obtain ⟨k, t⟩ := e
      rw [atKey?] at ih
      rw [ofEntries, atKey?, List.find?_cons, Entries.lookup_head]
      by_cases same : key = k
      · simp [compare_ofString, same]
      · simp [compare_ofString, same, ih]

theorem isUndefined_ofTree (t : Tree) : (ofTree t).isUndefined = false := by
  cases t with
  | number n => cases n <;> rfl
  | null | bool | string | list | map => rfl

theorem ofTree_eq_none (t : Tree) : ofTree t = none ↔ t = .null := by
  cases t with
  | number n => cases n <;> simp [ofTree]
  | null | bool | string | list | map => simp [ofTree, ofString, ofList]

end Value

def Function.given? (v : Value) : Option Value :=
  if v.isUndefined || v.isNone then none else some v

/-- What the property function relies on: a value made of a tree has an attribute for each entry of
the tree and no other, and a fallback is passed on unless it is null or undefined. -/
structure Accesses (attribute? : Value → String → Option Value)
    (given? : Value → Option Value) : Prop where
  entry : ∀ t key, attribute? (.ofTree t) key = (t.entries.lookup key).map .ofTree
  given : ∀ v, v.isUndefined = false ∧ v.isNone = false → given? v = some v
  absent : ∀ v, v.isUndefined = true ∨ v.isNone = true → given? v = none

theorem accesses : Accesses Value.attribute? Function.given? where
  entry t key := by
    cases t with
    | map entries => exact Value.atKey?_ofEntries entries key
    | number n => cases n <;> rfl
    | null | bool | string | list => rfl
  given v passed := by simp [Function.given?, passed]
  absent v missing := by
    rcases missing with undefined | null
    · simp [Function.given?, undefined]
    · simp [Function.given?, null]

/-- The two walks agree: attributes are followed as entries are. -/
theorem Value.descend?_ofTree (t : Tree) (keys : List String) :
    (ofTree t).descend? keys = (Property.walk t keys).map ofTree := by
  induction keys generalizing t with
  | nil => rfl
  | cons key keys ih =>
      rw [descend?, accesses.entry, Property.walk]
      cases t.entries.lookup key with
      | none => rfl
      | some child => simp [isUndefined_ofTree, ih]

namespace Heap

theorem refresh_ofTree (h : Heap) (depth : Nat) (t : Tree) :
    h.refresh depth (.ofTree t) = .ofTree t := by
  induction depth generalizing t with
  | zero => rfl
  | succ depth ih =>
      have key : ∀ s, h.refresh depth (.ofString s) = .ofString s := fun s => ih (.string s)
      cases t with
      | number n => cases n <;> rfl
      | null | bool | string => rfl
      | list items =>
          simp [Value.ofTree, Value.ofList, refresh, shown, Value.ofItems_eq_map, Function.comp_def,
            ih]
      | map entries =>
          simp [Value.ofTree, refresh, shown, Value.ofEntries_eq_map, Function.comp_def, ih, key]

theorem settled_ofTree (h : Heap) (t : Tree) : h.settled (.ofTree t) = .ofTree t := by
  rw [settled, refresh_ofTree, ite_self]

theorem settled_string (h : Heap) (s : String) (safe : Bool) :
    h.settled (.string s safe) = .string s safe := by
  have kept : h.refresh maxDepth (.string s safe) = .string s safe := rfl
  rw [settled, kept, ite_self]

theorem settled_absent (h : Heap) (v : Value) :
    (h.settled v).isUndefined = v.isUndefined ∧ (h.settled v).isNone = v.isNone := by
  have kept : (h.refresh maxDepth v).isUndefined = v.isUndefined ∧
      (h.refresh maxDepth v).isNone = v.isNone := by
    cases v with
    | map shape entries => cases shape <;> exact ⟨rfl, rfl⟩
    | undefined | none | bool | int | float | string | list | loop | function | definition =>
      exact ⟨rfl, rfl⟩
  rw [settled]
  split
  · exact kept
  · exact ⟨rfl, rfl⟩

end Heap

namespace Value

variable {d : Dict Tree} {path : String}

theorem descend_ofDict (d : Dict Tree) (path : String) :
    (some (ofTree (.ofDict d))).bind (·.descend? (Path.ofText path).segments) =
      (lookupIn d path).map ofTree := by
  rw [Option.bind_some, descend?_ofTree, lookupIn_eq_walk]
  rfl

theorem property_present {t : Tree} (found : lookupIn d path = some t) (nonnull : t ≠ .null)
    (fallback : Option Value) :
    property (some (.ofTree (.ofDict d))) path fallback = .ok (.ofTree t) := by
  unfold property
  rw [descend_ofDict, found]
  rw [Option.map_some]
  split
  · rename_i same
    exact absurd ((ofTree_eq_none t).mp (Option.some.inj same)) nonnull
  · rename_i missing
    cases missing
  · rename_i same
    rw [Option.some.inj same]

theorem property_absent (absent : ∀ t, lookupIn d path = some t → t = .null)
    (fallback : Option Value) :
    property (some (.ofTree (.ofDict d))) path fallback =
      match fallback with
      | some v => .ok v
      | .none => .error (.propertyNotFound path) := by
  unfold property
  rw [descend_ofDict]
  cases found : lookupIn d path with
  | none => rfl
  | some t =>
      obtain rfl := absent t found
      rfl

end Value

theorem bind_apply {α β : Type} {x : Eval α} {h h' : Heap} {a : α} (ran : x h = .ok (a, h'))
    (next : α → Eval β) : (x >>= next) h = next a h' := by
  have opened : (x >>= next) h = x h >>= fun r => next r.1 r.2 := rfl
  rw [opened, ran]
  rfl

theorem lift_apply {α : Type} (outcome : Except Error α) (h : Heap) :
    (liftM outcome : Eval α) h = outcome.map fun a => (a, h) := by
  cases outcome <;> rfl

namespace Function

theorem given?_settled (h : Heap) (v : Value) : given? (h.settled v) = (given? v).map h.settled := by
  rw [given?, (h.settled_absent v).1, (h.settled_absent v).2, given?]
  split <;> rfl

theorem property_run (root : Option Value) (path : String) (safe : Bool) :
    (property root).run [.string path safe] = Value.property root path none := rfl

theorem property_run_fallback (root : Option Value) (path : String) (safe : Bool) (d : Value) :
    (property root).run [.string path safe, d] = Value.property root path (given? d) := by
  cases d <;> rfl

theorem call_property (root : Option Value) (args : List Value) (h : Heap) :
    call "p" root args h =
      ((property (root.map h.settled)).run (args.map h.settled)).map fun v => (v, h) := by
  simp only [call]
  have read : (getThe Heap : Eval Heap) h = .ok (h, h) := rfl
  rw [bind_apply read, lift_apply]

end Function

/-- The names `properties` and `p` stand for what a template begins with: no frame gives them
another value. -/
structure Scope.Unchanged (c : Context) (h : Heap) (σ : Scope) : Prop where
  context : σ.context = c.names
  properties : ∀ frame ∈ σ.frames, ∀ v, frame.lookup? h "properties" = some v →
    v = .ofTree (.ofDict c.properties)
  function : ∀ frame ∈ σ.frames, ∀ v, frame.lookup? h "p" = some v → v = .function "p"

namespace Scope

variable {c : Context} {h : Heap} {σ : Scope}

theorem lookup?_frames {id : String} {v : Value}
    (same : ∀ frame ∈ σ.frames, ∀ w, frame.lookup? h id = some w → w = v) :
    σ.lookup? h id = some v ∨ σ.lookup? h id = { σ with frames := [] }.lookup? h id := by
  cases inner : σ.frames.findSome? (·.lookup? h id) with
  | none =>
      right
      simp [lookup?, inner]
  | some w =>
      left
      obtain ⟨frame, member, found⟩ := List.exists_of_findSome?_eq_some inner
      rw [same frame member w found] at inner
      simp [lookup?, inner]

theorem Unchanged.lookup_properties (unchanged : σ.Unchanged c h) :
    σ.lookup? h "properties" = some (.ofTree (.ofDict c.properties)) := by
  rcases lookup?_frames unchanged.properties with found | outer
  · exact found
  · rw [outer, lookup?, unchanged.context]
    rfl

theorem Unchanged.lookup_function (unchanged : σ.Unchanged c h) :
    σ.lookup? h "p" = some (.function "p") := by
  rcases lookup?_frames unchanged.function with found | outer
  · exact found
  · rw [outer, lookup?, unchanged.context]
    rfl

theorem lookup?_empty (h : Heap) (id : String) : Frame.empty.lookup? h id = none := by
  simp [Frame.lookup?, Frame.empty]

theorem unchanged_begin (c : Context) (page : Page) (h : Heap) : (c.scope page).Unchanged c h where
  context := rfl
  properties := by simp [Context.scope, lookup?_empty]
  function := by simp [Context.scope, lookup?_empty]

end Scope

def propertyCall (path : Expr) (fallback : Option Expr) : Expr :=
  .call (.name "p") ((path :: fallback.toList).map (.place, ·))

section

variable {calls : Calls} {σ : Scope} {h h' : Heap} {e : Expr} {v : Value}

theorem evaluatePlaces_place (first : evaluate calls σ e h = .ok (v, h'))
    (rest : List (Role × Expr)) :
    evaluatePlaces calls σ ((.place, e) :: rest) h =
      (evaluatePlaces calls σ rest >>= fun vs => pure (v :: vs)) h' := by
  rw [evaluatePlaces]
  simp only [Role.isNamed]
  exact bind_apply first _

theorem evaluateNamed_places (es : List Expr) :
    evaluateNamed calls σ (es.map (.place, ·)) = pure [] := by
  induction es with
  | nil => rfl
  | cons e es ih =>
      rw [List.map_cons, evaluateNamed, ih]
      · intro id same
        cases same
      · intro same
        cases same

theorem call_function (depth : Nat) (σ : Scope) (id : String) (args : List Value) (h : Heap) :
    (callsTo (depth + 1)).value σ (.function id) args h =
      Function.call id (σ.lookup? h "properties") args h := by
  have read : (getThe Heap : Eval Heap) h = .ok (h, h) := rfl
  have opened : (callsTo (depth + 1)).value = callValue (callsTo depth) := by rw [callsTo]
  rw [opened]
  unfold callValue
  exact bind_apply read _

theorem apply_function {depth : Nat} {c : Context} (unchanged : σ.Unchanged c h)
    (args : List Value) :
    Called.apply (callsTo (depth + 1)) σ args (.name "p") h =
      Function.call "p" (some (.ofTree (.ofDict c.properties))) args h := by
  have read : (getThe Heap : Eval Heap) h = .ok (h, h) := rfl
  rw [← unchanged.lookup_properties, ← call_function depth, Called.apply, bind_apply read]
  · simp [unchanged.lookup_function]
  · simp

theorem gather_places (es : List Expr) (vs : List Value) :
    gather (es.map (.place, ·)) vs [] = vs := by
  have unnamed : (es.map (Role.place, ·)).any (·.1.isNamed) = false := by
    simp [Role.isNamed]
  simp [gather, unnamed]

theorem evaluate_call {depth : Nat} {c : Context} {es : List Expr} {vs : List Value}
    (places : evaluatePlaces (callsTo (depth + 1)) σ (es.map (.place, ·)) h = .ok (vs, h'))
    (unchanged : σ.Unchanged c h') :
    evaluate (callsTo (depth + 1)) σ (.call (.name "p") (es.map (.place, ·))) h =
      Function.call "p" (some (.ofTree (.ofDict c.properties))) vs h' := by
  have callee : evaluateCallee (callsTo (depth + 1)) σ (.name "p") h = .ok (.name "p", h) := rfl
  have named : evaluateNamed (callsTo (depth + 1)) σ (es.map (.place, ·)) h' = .ok ([], h') := by
    rw [evaluateNamed_places]
    rfl
  rw [evaluate, bind_apply callee, bind_apply places, bind_apply named, gather_places,
    apply_function unchanged]

theorem evaluatePlaces_nil : evaluatePlaces calls σ [] h = .ok ([], h) := rfl

variable {c : Context} {depth : Nat} {path : String} {safe : Bool} {h₁ h₂ : Heap} {f : Expr}
  {d : Value}

theorem evaluate_plain
    (first : evaluate (callsTo (depth + 1)) σ e h = .ok (.string path safe, h₁))
    (unchanged : σ.Unchanged c h₁) :
    evaluate (callsTo (depth + 1)) σ (propertyCall e none) h =
      (Value.property (some (.ofTree (.ofDict c.properties))) path none).map (·, h₁) := by
  have places : evaluatePlaces (callsTo (depth + 1)) σ ([e].map (.place, ·)) h =
      .ok ([.string path safe], h₁) := by
    rw [List.map_singleton, evaluatePlaces_place first]
    exact bind_apply evaluatePlaces_nil _
  rw [propertyCall, Option.toList_none, evaluate_call places unchanged, Function.call_property,
    Option.map_some, Heap.settled_ofTree, List.map_cons, Heap.settled_string, List.map_nil,
    Function.property_run]

theorem evaluate_fallback
    (first : evaluate (callsTo (depth + 1)) σ e h = .ok (.string path safe, h₁))
    (second : evaluate (callsTo (depth + 1)) σ f h₁ = .ok (d, h₂))
    (unchanged : σ.Unchanged c h₂) :
    evaluate (callsTo (depth + 1)) σ (propertyCall e (some f)) h =
      (Value.property (some (.ofTree (.ofDict c.properties))) path
        ((Function.given? d).map h₂.settled)).map (·, h₂) := by
  have places : evaluatePlaces (callsTo (depth + 1)) σ ([e, f].map (.place, ·)) h =
      .ok ([.string path safe, d], h₂) := by
    have last : evaluatePlaces (callsTo (depth + 1)) σ [(.place, f)] h₁ = .ok ([d], h₂) := by
      rw [evaluatePlaces_place second]
      exact bind_apply evaluatePlaces_nil _
    rw [List.map_cons, List.map_singleton, evaluatePlaces_place first]
    exact bind_apply last _
  rw [propertyCall, Option.toList_some, evaluate_call places unchanged, Function.call_property,
    Option.map_some, Heap.settled_ofTree, List.map_cons, Heap.settled_string, List.map_cons,
    List.map_nil, Function.property_run_fallback, Function.given?_settled]

end

/-- Without a default a call of the property function has the value that the property tree holds
under the path, and fails if that is null or missing. With a default it has the same value where
there is one, and else the default as it is now; a default that is null or undefined is none. -/
theorem evaluate_propertyCall (c : Context) (depth : Nat) (σ : Scope) (e : Expr) (path : String)
    (safe : Bool) (h h₁ : Heap)
    (first : evaluate (callsTo (depth + 1)) σ e h = .ok (.string path safe, h₁)) :
    (σ.Unchanged c h₁ →
      (∀ t, lookupIn c.properties path = some t → t ≠ .null →
        evaluate (callsTo (depth + 1)) σ (propertyCall e none) h = .ok (.ofTree t, h₁)) ∧
      ((∀ t, lookupIn c.properties path = some t → t = .null) →
        evaluate (callsTo (depth + 1)) σ (propertyCall e none) h =
          .error (.propertyNotFound path))) ∧
    ∀ f d h₂, evaluate (callsTo (depth + 1)) σ f h₁ = .ok (d, h₂) → σ.Unchanged c h₂ →
      (∀ t, lookupIn c.properties path = some t → t ≠ .null →
        evaluate (callsTo (depth + 1)) σ (propertyCall e (some f)) h = .ok (.ofTree t, h₂)) ∧
      ((∀ t, lookupIn c.properties path = some t → t = .null) →
        (d.isUndefined = false ∧ d.isNone = false →
          evaluate (callsTo (depth + 1)) σ (propertyCall e (some f)) h =
            .ok (h₂.settled d, h₂)) ∧
        (d.isUndefined = true ∨ d.isNone = true →
          evaluate (callsTo (depth + 1)) σ (propertyCall e (some f)) h =
            .error (.propertyNotFound path))) := by
  constructor
  · intro unchanged
    rw [evaluate_plain first unchanged]
    constructor
    · intro t found nonnull
      rw [Value.property_present found nonnull]
      rfl
    · intro absent
      rw [Value.property_absent absent]
      rfl
  · intro f d h₂ second unchanged
    rw [evaluate_fallback first second unchanged]
    refine ⟨?_, ?_⟩
    · intro t found nonnull
      rw [Value.property_present found nonnull]
      rfl
    · intro absent
      rw [Value.property_absent absent]
      constructor
      · intro given
        rw [accesses.given d given]
        rfl
      · intro nothing
        rw [accesses.absent d nothing]
        rfl

namespace Known

def context : Context where
  properties := .ofList
    [("", .nat 1), ("nats", .ofEntries [("port", .null), ("user", .string "admin")])]
  spec := .unset
  links := ∅

def scope : Scope := context.scope ⟨[], []⟩

def text (s : String) : Expr := .literal (.string s)

theorem evaluate_text (s : String) (h : Heap) :
    evaluate (callsTo 1) scope (text s) h = .ok (.string s false, h) := rfl

theorem evaluate_number (h : Heap) :
    evaluate (callsTo 1) scope (.literal (.int 7)) h = .ok (.int 7, h) := rfl

theorem evaluate_null (h : Heap) :
    evaluate (callsTo 1) scope (.literal .none) h = .ok (.none, h) := rfl

theorem absent {path : String} (missing : (lookupIn context.properties path).getD .null = .null) :
    ∀ t, lookupIn context.properties path = some t → t = .null := by
  intro t found
  rwa [found] at missing

end Known

/-- A text, an explicit null, a path through the text, and a path of nothing but a dot. -/
theorem evaluate_propertyCall_known :
    evaluate (callsTo 1) Known.scope (propertyCall (Known.text "nats.user") none) .empty =
        .ok (.ofTree (.string "admin"), .empty) ∧
      evaluate (callsTo 1) Known.scope (propertyCall (Known.text "nats.port") none) .empty =
        .error (.propertyNotFound "nats.port") ∧
      evaluate (callsTo 1) Known.scope
          (propertyCall (Known.text "nats.user.name") (some (.literal (.int 7)))) .empty =
        .ok (.int 7, .empty) ∧
      evaluate (callsTo 1) Known.scope
          (propertyCall (Known.text ".") (some (.literal .none))) .empty =
        .error (.propertyNotFound ".") := by
  have unchanged : Known.scope.Unchanged Known.context .empty :=
    Scope.unchanged_begin Known.context ⟨[], []⟩ .empty
  have user := evaluate_propertyCall Known.context 0 Known.scope (Known.text "nats.user")
    "nats.user" false .empty .empty (Known.evaluate_text _ _)
  have port := evaluate_propertyCall Known.context 0 Known.scope (Known.text "nats.port")
    "nats.port" false .empty .empty (Known.evaluate_text _ _)
  have name := evaluate_propertyCall Known.context 0 Known.scope (Known.text "nats.user.name")
    "nats.user.name" false .empty .empty (Known.evaluate_text _ _)
  have dot := evaluate_propertyCall Known.context 0 Known.scope (Known.text ".")
    "." false .empty .empty (Known.evaluate_text _ _)
  refine ⟨?_, ?_, ?_, ?_⟩
  · exact (user.1 unchanged).1 (.string "admin") (by decide) (by simp)
  · exact (port.1 unchanged).2 (Known.absent (by decide))
  · have fallback := (name.2 _ _ _ (Known.evaluate_number _) unchanged).2
    exact (fallback (Known.absent (by decide))).1 ⟨rfl, rfl⟩
  · have fallback := (dot.2 _ _ _ (Known.evaluate_null _) unchanged).2
    exact (fallback (Known.absent (by decide))).2 (.inr rfl)

end JobContainers.Template
