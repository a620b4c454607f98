import JobContainers.Proofs.LinkProperties
import JobContainers.Proofs.PropertyUpdates
import Mathlib.Data.List.Perm.Basic

set_option autoImplicit false

namespace JobContainers

namespace Property

def beneath (former : Option Tree) (value : Tree) : List String → Tree
  | [] => value
  | next :: rest => .map (setEntries (surviving former) value next rest)

theorem setEntries_eq_insert (entries : List (String × Tree)) (value : Tree) (key : String)
    (rest : List String) :
    setEntries entries value key rest =
      Entries.insert key (beneath (entries.lookup key) value rest) entries := by
  cases rest <;> rfl

/-- Two values whose paths part can be set in either order. The induction is on the common front of
both paths: behind it they go on under different keys. -/
theorem setEntries_comm {entries : List (String × Tree)} (value next : Tree) {key other : String}
    {rest more : List String} (notPrefix : ¬key :: rest <+: other :: more)
    (notInside : ¬other :: more <+: key :: rest) :
    setEntries (setEntries entries value key rest) next other more =
      setEntries (setEntries entries next other more) value key rest := by
  induction rest generalizing entries key other more with
  | nil =>
      have differ : key ≠ other := by
        intro same
        apply notPrefix
        simp [same]
      simp only [setEntries_eq_insert, Entries.lookup_insert, differ, differ.symm, if_false]
      exact Entries.insert_comm differ _ _ _
  | cons step rest ih =>
      by_cases same : key = other
      · subst same
        cases more with
        | nil =>
            exfalso
            apply notInside
            simp
        | cons turn more =>
            have parts : ¬step :: rest <+: turn :: more := by simpa using notPrefix
            have parts' : ¬turn :: more <+: step :: rest := by simpa using notInside
            have inner := @ih (surviving (entries.lookup key)) step turn more parts parts'
            simp only [setEntries_eq_insert entries, setEntries_eq_insert (Entries.insert _ _ _),
              Entries.lookup_insert, if_true, Entries.insert_insert]
            simp only [beneath, surviving, Option.getD_some, Tree.entries] at inner ⊢
            rw [inner]
      · simp only [setEntries_eq_insert, Entries.lookup_insert, same, Ne.symm same, if_false]
        exact Entries.insert_comm same _ _ _

theorem set_comm (d : Dict Tree) {path other : String} (apart : Apart path other)
    (value next : Tree) : set (set d path value) other next = set (set d other next) path value := by
  apply ofDict_inj
  rw [ofDict_set, ofDict_set, entries_set, entries_set]
  exact congrArg Tree.map (setEntries_comm value next apart.diverges apart.symm.diverges)

theorem foldl_set_perm (f : String → Tree) (d : Dict Tree) {names order : List String}
    (parted : ∀ name ∈ names, ∀ other ∈ names, ¬Below other name) (same : order.Perm names) :
    order.foldl (fun d name => set d name (f name)) d =
      names.foldl (fun d name => set d name (f name)) d := by
  apply same.foldl_eq'
  intro name listed other listed' d
  by_cases equal : name = other
  · rw [equal]
  · have member := same.mem_iff.mp listed
    have member' := same.mem_iff.mp listed'
    have apart : Apart name other :=
      ⟨equal, parted other member' name member, parted name member other member'⟩
    exact set_comm d apart (f name) (f other)

theorem lookupIn_foldl_apart (f : String → Tree) (d : Dict Tree) {names : List String}
    {path : String} (apart : ∀ name ∈ names, Apart name path) :
    lookupIn (names.foldl (fun d name => set d name (f name)) d) path = lookupIn d path := by
  induction names generalizing d with
  | nil => rfl
  | cons name names ih =>
      have first := apart name List.mem_cons_self
      have others : ∀ other ∈ names, Apart other path := by
        intro other member
        exact apart other (List.mem_cons_of_mem _ member)
      calc
        _ = lookupIn (set d name (f name)) path := ih _ others
        _ = lookupIn d path := lookupIn_set_apart d _ first

theorem lookupIn_empty (path : String) : lookupIn ∅ path = none := by
  rw [lookupIn_eq_walk]
  rfl

end Property

open Property

namespace Job

variable {job : Job} {spec : JobSpec} {name : String}

theorem effectiveProperty_given {value : Tree} (given : job.property? name = some value) :
    job.effectiveProperty spec name = value := by
  simp [effectiveProperty, given]

theorem effectiveProperty_declared {definition : PropertyDefinition}
    (absent : job.property? name = none) (declared : spec.properties.get? name = some definition) :
    job.effectiveProperty spec name = definition.default.getD .null := by
  simp [effectiveProperty, JobSpec.propertyDefault, absent, declared]

theorem effectiveProperty_unknown (absent : job.property? name = none)
    (undeclared : spec.properties.get? name = none) :
    job.effectiveProperty spec name = .null := by
  simp [effectiveProperty, JobSpec.propertyDefault, absent, undeclared]

/-- A link holds each listed name's own value at that name, unless a name that is listed later
continues it or is continued by it: what the job sets, null included, else the default, and null
without one. It holds nothing where no listed name leads. If no listed name continues another one,
the order of the list is of no account. -/
theorem linkProperties_paths (job : Job) (spec : JobSpec) (provided : ProvidedLink) :
    (∀ before name after, provided.properties = before ++ name :: after →
      (∀ other ∈ after, ¬Below other name ∧ ¬Below name other) →
      (∀ value, job.property? name = some value →
        lookupIn (job.linkProperties spec provided) name = some value) ∧
      (∀ definition, job.property? name = none → spec.properties.get? name = some definition →
        lookupIn (job.linkProperties spec provided) name =
          some (definition.default.getD .null)) ∧
      (job.property? name = none → spec.properties.get? name = none →
        lookupIn (job.linkProperties spec provided) name = some .null)) ∧
    (∀ path, (∀ name ∈ provided.properties, Apart name path) →
      lookupIn (job.linkProperties spec provided) path = none) ∧
    ((∀ name ∈ provided.properties, ∀ other ∈ provided.properties, ¬Below other name) →
      ∀ order : List String, order.Perm provided.properties →
        job.linkProperties spec { provided with properties := order } =
          job.linkProperties spec provided) := by
  refine ⟨?_, ?_, ?_⟩
  · intro before name after listed beside
    have held : lookupIn (job.linkProperties spec provided) name =
        some (job.effectiveProperty spec name) := lookupIn_linkProperties listed beside
    refine ⟨?_, ?_, ?_⟩
    · intro value given
      rw [held, effectiveProperty_given given]
    · intro definition absent declared
      rw [held, effectiveProperty_declared absent declared]
    · intro absent undeclared
      rw [held, effectiveProperty_unknown absent undeclared]
  · intro path apart
    have kept := lookupIn_foldl_apart (job.effectiveProperty spec) ∅ apart
    rw [linkProperties, kept, lookupIn_empty]
  · intro parted order same
    exact foldl_set_perm (job.effectiveProperty spec) ∅ parted same

end Job

namespace Exposed

def provided : ProvidedLink := ⟨"nats", "nats", ["nats.port", "nats.user", "tls"]⟩

def spec : JobSpec := Nats.spec provided

def job : Job := Nats.job [("nats", .ofEntries [("port", .null)]), ("user", .list [])]

theorem parted : ∀ name ∈ provided.properties, ∀ other ∈ provided.properties,
    ¬Below other name := by
  decide

theorem beside (before after : List String) (name : String)
    (listed : provided.properties = before ++ name :: after) :
    ∀ other ∈ after, ¬Below other name ∧ ¬Below name other := by
  intro other member
  have first : name ∈ provided.properties := by simp [listed]
  have second : other ∈ provided.properties := by simp [listed, member]
  exact ⟨parted name first other second, parted other second name first⟩

end Exposed

theorem linkProperties_paths_exposed :
    Exposed.job.property? "nats.port" = some .null ∧
      lookupIn (Exposed.job.linkProperties Exposed.spec Exposed.provided) "nats.port" =
        some .null ∧
      lookupIn (Exposed.job.linkProperties Exposed.spec Exposed.provided) "nats.user" =
        some (.string "admin") ∧
      lookupIn (Exposed.job.linkProperties Exposed.spec Exposed.provided) "tls" = some .null ∧
      lookupIn (Exposed.job.linkProperties Exposed.spec Exposed.provided) "nats.password" = none ∧
      Exposed.job.linkProperties Exposed.spec
          { Exposed.provided with properties := ["tls", "nats.port", "nats.user"] } =
        Exposed.job.linkProperties Exposed.spec Exposed.provided := by
  obtain ⟨held, nothing, ordered⟩ :=
    Job.linkProperties_paths Exposed.job Exposed.spec Exposed.provided
  have given : Exposed.job.property? "nats.port" = some .null := by decide
  have port := held [] "nats.port" ["nats.user", "tls"] rfl (Exposed.beside [] _ _ rfl)
  have user := held ["nats.port"] "nats.user" ["tls"] rfl
    (Exposed.beside ["nats.port"] _ _ rfl)
  have tls := held ["nats.port", "nats.user"] "tls" [] rfl
    (Exposed.beside ["nats.port", "nats.user"] _ _ rfl)
  have apart : ∀ name ∈ Exposed.provided.properties, Apart name "nats.password" := by
    decide
  refine ⟨given, port.1 .null given, ?_, ?_, nothing "nats.password" apart, ?_⟩
  · exact user.2.1 ⟨some (.string "admin"), none⟩ (by decide) (by decide +kernel)
  · exact tls.2.2 (by decide) (by decide +kernel)
  · exact ordered Exposed.parted _ (by decide)

/-- The tree of the defaults holds that of a property at its name, null without one, unless another
declared name continues it. It holds nothing where no declared name leads. -/
theorem JobSpec.defaultProperties_paths (spec : JobSpec) :
    (∀ name definition, spec.properties.get? name = some definition →
      (∀ other, (spec.properties.get? other).isSome → ¬Below other name) →
      lookupIn spec.defaultProperties name = some (definition.default.getD .null)) ∧
    ∀ path, (∀ name, (spec.properties.get? name).isSome → Apart name path) →
      lookupIn spec.defaultProperties path = none := by
  constructor
  · intro name definition declared leaf
    have known : (spec.properties.get? name).isSome := by simp [declared]
    rw [lookupIn_defaultProperties known leaf]
    simp [propertyDefault, declared]
  · intro path apart
    have apart' : ∀ name ∈ spec.properties.keys, Apart name path := by
      intro name member
      exact apart name (Dict.mem_keys.mp member)
    have kept := lookupIn_foldl_apart spec.propertyDefault ∅ apart'
    rw [defaultProperties, kept, lookupIn_empty]

namespace Shadowed

def spec : JobSpec where
  name := "web"
  provides := []
  consumes := []
  properties := .ofList [("a", ⟨some (.nat 1), none⟩), ("a-b", ⟨none, none⟩),
    ("a.b", ⟨some (.list [.nat 2]), none⟩)]
  templates := ∅

theorem keys : spec.properties.keys = ["a", "a-b", "a.b"] := by decide

end Shadowed

theorem defaultProperties_paths_shadowed :
    Below "a.b" "a" ∧
      lookupIn Shadowed.spec.defaultProperties "a.b" = some (.list [.nat 2]) ∧
      lookupIn Shadowed.spec.defaultProperties "a-b" = some .null ∧
      lookupIn Shadowed.spec.defaultProperties "b" = none := by
  obtain ⟨held, nothing⟩ := JobSpec.defaultProperties_paths Shadowed.spec
  have below : Below "a.b" "a" := by decide
  have leaves : ∀ name ∈ ["a.b", "a-b"], ∀ other ∈ ["a", "a-b", "a.b"], ¬Below other name := by
    decide
  have leaf : ∀ name ∈ ["a.b", "a-b"], ∀ other,
      (Shadowed.spec.properties.get? other).isSome → ¬Below other name := by
    intro name listed other declared
    have member := Dict.mem_keys.mpr declared
    rw [Shadowed.keys] at member
    exact leaves name listed other member
  have beside : ∀ name ∈ ["a", "a-b", "a.b"], Apart name "b" := by decide
  have apart : ∀ name, (Shadowed.spec.properties.get? name).isSome → Apart name "b" := by
    intro name declared
    have member := Dict.mem_keys.mpr declared
    rw [Shadowed.keys] at member
    exact beside name member
  refine ⟨below, ?_, ?_, nothing "b" apart⟩
  · exact held "a.b" ⟨some (.list [.nat 2]), none⟩ (by decide) (leaf "a.b" (by simp))
  · exact held "a-b" ⟨none, none⟩ (by decide) (leaf "a-b" (by simp))

end JobContainers
