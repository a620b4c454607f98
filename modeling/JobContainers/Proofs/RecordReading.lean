import JobContainers.Proofs.RecordLaws

set_option autoImplicit false

namespace JobContainers

def Tree.field? (t : Tree) (name : String) (place : Nat) : Option Tree :=
  match t with
  | .map entries => entries.lookup name
  | .list items => items[place]?
  | _ => none

def Tree.item? (t : Tree) (place : Nat) : Option Tree :=
  match t with
  | .list items => items[place]?
  | _ => none

namespace Fields

variable {ρ α β : Type} {c : Codec α}

/-- Fields with so many places. `given found k P` says that they have the property `P` whenever they
come from what is `found` under their names and at their places, which begin at `k`. -/
structure Reads (f : Fields ρ α) (size : Nat)
    (given : (String → Nat → Option Tree) → Nat → (α → Prop) → Prop) : Prop where
  byName : ∀ {entries x}, f.byName entries = .ok x →
    ∀ {k P}, given (Tree.map entries).field? k P → P x
  byPlace : ∀ {items k n x m rest}, f.byPlace n (items.drop k) = .ok (x, m, rest) →
    rest = items.drop (k + size) ∧ ∀ {P}, given (Tree.list items).field? k P → P x

theorem place_reads {absent : Option α} {n m : Nat} {items rest : List Tree} {x : α}
    (read : place c absent n items = .ok (x, m, rest)) :
    rest = items.tail ∧ ∀ t, items.head? = some t → c.read t = .ok x := by
  cases items with
  | nil =>
      cases absent with
      | none => cases read
      | some y =>
          cases read
          exact ⟨rfl, nofun⟩
  | cons t items =>
      obtain ⟨y, made, same⟩ := map_ok.mp read
      cases same
      refine ⟨rfl, ?_⟩
      intro u first
      obtain rfl := Option.some.inj first
      exact made

namespace Reads

theorem field {name : String} {absent : Option α} {hidden : α → Bool} {get : ρ → α} :
    (Fields.field name c absent hidden get).Reads 1 fun found k P =>
      ∀ x, (∀ t, found name k = some t → c.read t = .ok x) → P x where
  byName := by
    intro entries x read k P holds
    apply holds
    intro t found
    rw [field_found found, mapError_ok] at read
    exact read
  byPlace := by
    intro items k n x m rest read
    have here := place_reads read
    rw [List.tail_drop] at here
    refine ⟨here.1, ?_⟩
    intro P holds
    apply holds
    intro t found
    apply here.2
    rw [List.head?_drop]
    exact found

theorem required {name : String} {get : ρ → α} :
    (Fields.required name c get).Reads 1 fun found k P =>
      ∀ x, (∀ t, found name k = some t → c.read t = .ok x) → P x :=
  field

theorem defaulted {name : String} {absent : α} {get : ρ → α} :
    (Fields.defaulted name c absent get).Reads 1 fun found k P =>
      ∀ x, (∀ t, found name k = some t → c.read t = .ok x) → P x :=
  field

variable {given : (String → Nat → Option Tree) → Nat → (α → Prop) → Prop} {size : Nat}

theorem map {f : Fields ρ α} (reads : f.Reads size given) {g : α → β} :
    (g <$> f).Reads size fun found k P => given found k fun a => P (g a) where
  byName := by
    intro entries y read k P holds
    obtain ⟨h, a, same, made, joined⟩ := both_ok read
    cases same
    subst joined
    exact reads.byName made holds
  byPlace := by
    intro items k n y m rest read
    obtain ⟨⟨h, l, others⟩, start, read⟩ := bind_ok.mp read
    cases start
    obtain ⟨⟨a, l, others⟩, made, same⟩ := bind_ok.mp read
    cases same
    have parts := reads.byPlace made
    exact ⟨parts.1, fun holds => parts.2 holds⟩

theorem seq {given : (String → Nat → Option Tree) → Nat → ((α → β) → Prop) → Prop}
    {givenToo : (String → Nat → Option Tree) → Nat → (α → Prop) → Prop} {sizeToo : Nat}
    {f : Fields ρ (α → β)} {x : Fields ρ α} (reads : f.Reads size given)
    (more : x.Reads sizeToo givenToo) :
    (f <*> x).Reads (size + sizeToo) fun found k P =>
      given found k fun g => givenToo found (k + size) fun a => P (g a) where
  byName := by
    intro entries y read k P holds
    obtain ⟨g, a, first, second, joined⟩ := both_ok read
    subst joined
    exact more.byName second (reads.byName first holds)
  byPlace := by
    intro items k n y m rest read
    obtain ⟨⟨g, l, others⟩, first, read⟩ := bind_ok.mp read
    obtain ⟨⟨a, l, others⟩, second, same⟩ := bind_ok.mp read
    cases same
    have front := reads.byPlace first
    -- the second part goes on with what the first one has left
    rw [front.1] at second
    have back := more.byPlace second
    rw [Nat.add_assoc] at back
    exact ⟨back.1, fun holds => back.2 (front.2 holds)⟩

end Reads

end Fields

namespace Codec

variable {ρ : Type} {fields : Fields ρ ρ} {size : Nat}
  {given : (String → Nat → Option Tree) → Nat → (ρ → Prop) → Prop}

theorem record_reads (reads : fields.Reads size given) {t : Tree} {x : ρ}
    (read : (record fields).read t = .ok x) {P : ρ → Prop} (holds : given t.field? 0 P) : P x := by
  cases t with
  | map entries => exact reads.byName (mapError_ok.mp read) holds
  | list items =>
      obtain ⟨⟨y, m, rest⟩, placed, whole⟩ := bind_ok.mp read
      rw [← List.drop_zero (l := items)] at placed
      cases rest with
      | nil =>
          cases whole
          exact (reads.byPlace placed).2 holds
      | cons t rest => cases whole
  | _ => cases read

theorem list_item {α : Type} {c : Codec α} {t item : Tree} {xs : List α} {place : Nat}
    (read : c.list.read t = .ok xs) (found : t.item? place = some item) :
    ∃ x, xs[place]? = some x ∧ c.read item = .ok x := by
  cases t with
  | list items =>
      have related := mapM_ok.mp read
      have here : items[place]? = some item := found
      have inside : place < items.length := (List.getElem?_eq_some_iff.mp here).1
      have insideToo : place < xs.length := by rwa [← related.length_eq]
      have made := related.get inside insideToo
      refine ⟨xs[place], List.getElem?_eq_getElem insideToo, ?_⟩
      rw [List.getElem?_eq_getElem inside] at here
      cases here
      exact made
  | _ => cases read

end Codec

end JobContainers
