import JobContainers.Proofs.CodecLaws

/-!
Records whose values survive being written: it is enough that every field does and that no two of
them share a name. The laws follow the way a record's fields are put together.
-/

set_option autoImplicit false

namespace JobContainers

namespace Entries

theorem lookup_outside {names : List String} {entries : List (String × Tree)}
    (within : (entries.map (·.1)).Sublist names) {name : String} (outside : name ∉ names) :
    entries.lookup name = none := by
  refine List.lookup_eq_none_iff.mpr fun e member => bne_iff_ne.mpr ?_
  rintro rfl
  exact outside (within.mem (List.mem_map_of_mem member))

theorem filter_key {entries : List (String × Tree)} (ascending : Ascending entries)
    {name : String} {t : Tree} (found : entries.lookup name = some t) :
    entries.filter (fun e => e.1 = name) = [(name, t)] := by
  induction entries with
  | nil => cases found
  | cons e rest ih =>
      obtain ⟨k, u⟩ := e
      obtain ⟨below, tail⟩ := List.pairwise_cons.mp ascending
      rw [lookup_head] at found
      by_cases same : name = k
      · subst same
        obtain rfl := Option.some.inj ((if_pos rfl).symm.trans found)
        have others : rest.filter (fun e => e.1 = name) = [] := by
          refine List.filter_eq_nil_iff.mpr fun e member again => ?_
          exact String.lt_irrefl name (of_decide_eq_true again ▸ below e member)
        rw [List.filter_cons_of_pos (by simp), others]
      · rw [if_neg same] at found
        rw [List.filter_cons_of_neg (by simpa using Ne.symm same), ih tail found]

end Entries

namespace Fields

variable {ρ α β : Type} {c : Codec α}

/-- Fields that survive being written, under these names. A record is `kept` if its field values can
be read; `value` is what the fields make of it; `given P` says that whatever the single fields give
is put together to something with the property `P`. -/
structure Lawful (f : Fields ρ α) (names : List String) (kept : ρ → Prop) (value : ρ → α)
    (given : (α → Prop) → Prop) : Prop where
  named : ∀ r, ((f.entries r).map (·.1)).Sublist names
  /-- A mapping that has under the names what is written reads as what was written. -/
  restored : names.Nodup → ∀ {r}, kept r → ∀ {d : Dict Tree},
    (∀ name ∈ names, d.get? name = (f.entries r).lookup name) → f.byName d.entries = .ok (value r)
  yieldsByName : ∀ {P}, given P → ∀ {entries x}, f.byName entries = .ok x → P x
  yieldsByPlace : ∀ {P}, given P → ∀ {n items x rest}, f.byPlace n items = .ok (x, rest) → P x

theorem both_ok {f : Except Fault (α → β)} {x : Except Fault α} {y : β}
    (read : both f x = .ok y) : ∃ g a, f = .ok g ∧ x = .ok a ∧ g a = y := by
  cases f with
  | error cause => cases x <;> cases read
  | ok g =>
      cases x with
      | error cause => cases read
      | ok a => exact ⟨g, a, rfl, rfl, Except.ok.inj read⟩

section Field

variable {name second : String} {absent : Option α} {hidden : α → Bool} {get : ρ → α}
  {entries : List (String × Tree)} {t : Tree}

theorem field_entries (r : ρ) : (field name c absent hidden get).entries r =
    if hidden (get r) then [] else [(name, c.write (get r))] :=
  rfl

theorem field_found (found : entries.lookup name = some t) :
    (field name c absent hidden get).byName entries = (c.read t).mapError (.bad name) := by
  simp only [field, found]

theorem field_absent (found : entries.lookup name = none) {x : α} :
    (field name c absent hidden get).byName entries = .ok x ↔ absent = some x := by
  simp only [field, found]
  cases absent <;> simp

theorem aliased_single {get : ρ → Option α} {key : String}
    (single : entries.filter (fun e => e.1 = name || e.1 = second) = [(key, t)]) :
    (aliased name second c get).byName entries = (c.option.read t).mapError (.bad key) := by
  simp only [aliased, single]

end Field

theorem place_ok {absent : Option α} (replaced : ∀ x, absent = some x → c.Gives x) {n : Nat}
    {items : List Tree} {x : α} {rest : Nat × List Tree}
    (read : place c absent n items = .ok (x, rest)) : c.Gives x := by
  cases items with
  | cons t items =>
      obtain ⟨y, made, same⟩ := map_ok.mp read
      obtain ⟨rfl, -⟩ := Prod.mk.inj same
      exact ⟨t, made⟩
  | nil =>
      cases absent with
      | none => cases read
      | some y =>
          obtain ⟨rfl, -⟩ := Prod.mk.inj (Except.ok.inj read)
          exact replaced y rfl

namespace Lawful

theorem map {f : Fields ρ α} {names : List String} {kept : ρ → Prop} {value : ρ → α}
    {given : (α → Prop) → Prop} (lawful : f.Lawful names kept value given) {g : α → β} :
    (g <$> f).Lawful names kept (fun r => g (value r)) fun P => given fun a => P (g a) where
  named := lawful.named
  restored distinct r isKept d agree := by
    have read : both (.ok g) (f.byName d.entries) = .ok (g (value r)) := by
      rw [lawful.restored distinct isKept agree, both]
    exact read
  yieldsByName holds entries y read := by
    obtain ⟨h, a, same, made, rfl⟩ := both_ok read
    obtain rfl := Except.ok.inj same
    exact lawful.yieldsByName holds made
  yieldsByPlace holds n items y rest read := by
    obtain ⟨⟨h, m, others⟩, start, read⟩ := bind_ok.mp read
    cases start
    obtain ⟨⟨a, m, others⟩, made, same⟩ := bind_ok.mp read
    cases same
    exact lawful.yieldsByPlace holds made

theorem seq {f : Fields ρ (α → β)} {x : Fields ρ α} {names others : List String}
    {kept keptToo : ρ → Prop} {value : ρ → α → β} {valueToo : ρ → α}
    {given : ((α → β) → Prop) → Prop} {givenToo : (α → Prop) → Prop}
    (lawful : f.Lawful names kept value given) (more : x.Lawful others keptToo valueToo givenToo) :
    (f <*> x).Lawful (names ++ others) (fun r => kept r ∧ keptToo r)
      (fun r => value r (valueToo r)) fun P => given fun g => givenToo fun a => P (g a) where
  named r := by
    have split : (f <*> x).entries r = f.entries r ++ x.entries r := rfl
    rw [split, List.map_append]
    exact (lawful.named r).append (more.named r)
  restored distinct r isKept d agree := by
    obtain ⟨first, second, apart⟩ := List.nodup_append.mp distinct
    -- no name is one of both parts, so each of them is read as if it stood alone
    have entries (name : String) : ((f <*> x).entries r).lookup name =
        ((f.entries r).lookup name).or ((x.entries r).lookup name) := List.lookup_append
    have readFirst : f.byName d.entries = .ok (value r) := by
      refine lawful.restored first isKept.1 fun name member => ?_
      rw [agree name (List.mem_append_left _ member), entries,
        Entries.lookup_outside (more.named r) fun late => apart name member name late rfl,
        Option.or_none]
    have readSecond : x.byName d.entries = .ok (valueToo r) := by
      refine more.restored second isKept.2 fun name member => ?_
      rw [agree name (List.mem_append_right _ member), entries,
        Entries.lookup_outside (lawful.named r) fun early => apart name early name member rfl,
        Option.none_or]
    have read : both (f.byName d.entries) (x.byName d.entries) = .ok (value r (valueToo r)) := by
      rw [readFirst, readSecond, both]
    exact read
  yieldsByName holds entries y read := by
    obtain ⟨g, a, first, second, rfl⟩ := both_ok read
    exact more.yieldsByName (lawful.yieldsByName holds first) second
  yieldsByPlace holds n items y rest read := by
    obtain ⟨⟨g, m, behind⟩, first, read⟩ := bind_ok.mp read
    obtain ⟨⟨a, m, behind⟩, second, same⟩ := bind_ok.mp read
    cases same
    exact more.yieldsByPlace (lawful.yieldsByPlace holds first) second

/-- What stands for an absent field has to be a value of the field, and the one that is hidden. -/
theorem field (faithful : c.Faithful) {name : String} {absent : Option α} {hidden : α → Bool}
    {get : ρ → α} (replaced : ∀ x, absent = some x → c.Gives x)
    (hides : ∀ x, hidden x = true → absent = some x) :
    (Fields.field name c absent hidden get).Lawful [name] (fun r => c.Gives (get r)) get
      fun P => ∀ x, c.Gives x → P x where
  named r := by
    rw [field_entries]
    cases hidden (get r) with
    | true => exact List.nil_sublist _
    | false => exact List.Sublist.refl _
  restored _ r isKept d agree := by
    have found := agree name List.mem_cons_self
    rw [field_entries] at found
    cases isHidden : hidden (get r) with
    | true =>
        rw [isHidden] at found
        exact (field_absent found).mpr (hides _ isHidden)
    | false =>
        rw [isHidden, if_neg Bool.false_ne_true, List.lookup_cons_self] at found
        rw [field_found found, mapError_ok]
        exact faithful.reread isKept
  yieldsByName holds entries x read := by
    refine holds x ?_
    cases found : entries.lookup name with
    | some t =>
        rw [field_found found, mapError_ok] at read
        exact ⟨t, read⟩
    | none =>
        exact replaced x ((field_absent found).mp read)
  yieldsByPlace holds n items x rest read := holds x (place_ok replaced read)

theorem required (faithful : c.Faithful) {name : String} {get : ρ → α} :
    (Fields.required name c get).Lawful [name] (fun r => c.Gives (get r)) get
      fun P => ∀ x, c.Gives x → P x :=
  field faithful nofun nofun

theorem defaulted (faithful : c.Faithful) {name : String} {absent : α} {get : ρ → α}
    (replaced : c.Gives absent) :
    (Fields.defaulted name c absent get).Lawful [name] (fun r => c.Gives (get r)) get
      fun P => ∀ x, c.Gives x → P x :=
  field faithful (fun _ same => Option.some.inj same ▸ replaced) nofun

theorem optional (faithful : c.Faithful) {name : String} {get : ρ → Option α} :
    (Fields.optional name c get).Lawful [name] (fun r => c.option.Gives (get r)) get
      fun P => ∀ x, c.option.Gives x → P x :=
  field faithful.option (fun _ same => Option.some.inj same ▸ ⟨.null, rfl⟩)
    fun _ nothing => congrArg some (Option.isNone_iff_eq_none.mp nothing).symm

theorem items (faithful : c.Faithful) {name : String} {get : ρ → List α} :
    (Fields.items name c get).Lawful [name] (fun r => c.list.Gives (get r)) get
      fun P => ∀ x, c.list.Gives x → P x :=
  field faithful.list (fun _ same => Option.some.inj same ▸ ⟨.list [], rfl⟩)
    fun _ nothing => congrArg some (List.isEmpty_iff.mp nothing).symm

theorem table (faithful : c.Faithful) {name : String} {get : ρ → Dict α} :
    (Fields.table name c get).Lawful [name] (fun r => c.dict.Gives (get r)) get
      fun P => ∀ x, c.dict.Gives x → P x :=
  field faithful.dict (fun _ same => Option.some.inj same ▸ ⟨.map [], rfl⟩)
    fun _ nothing => congrArg some (Dict.isEmpty_iff.mp nothing).symm

theorem aliased (faithful : c.Faithful) {name second : String} {get : ρ → Option α} :
    (Fields.aliased name second c get).Lawful [name, second] (fun r => c.option.Gives (get r)) get
      fun P => ∀ x, c.option.Gives x → P x where
  named r := .cons_cons name (List.nil_sublist _)
  restored distinct r isKept d agree := by
    have differ : second ≠ name := fun same => by
      simp [same] at distinct
    have found : d.get? name = some (c.option.write (get r)) := by
      rw [agree name List.mem_cons_self]
      exact List.lookup_cons_self
    have unused : d.get? second = none := by
      rw [agree second (List.mem_cons_of_mem _ List.mem_cons_self), Fields.aliased,
        Entries.lookup_head, if_neg differ, List.lookup_nil]
    -- nothing stands under the second name, which is never written
    have single : d.entries.filter (fun e => e.1 = name || e.1 = second) =
        [(name, c.option.write (get r))] := by
      rw [← Entries.filter_key d.ascending found]
      refine List.filter_congr fun e member => ?_
      have other : e.1 ≠ second := fun same =>
        bne_iff_ne.mp (List.lookup_eq_none_iff.mp unused e member) same.symm
      rw [decide_eq_false other, Bool.or_false]
    rw [aliased_single single, mapError_ok]
    exact faithful.option.reread isKept
  yieldsByName holds entries x read := by
    refine holds x ?_
    simp only [Fields.aliased] at read
    split at read
    · exact ⟨.null, Except.ok.inj read ▸ rfl⟩
    · exact ⟨_, mapError_ok.mp read⟩
    · split at read <;> cases read
  yieldsByPlace holds n items x rest read := by
    have replaced : ∀ x, some none = some x → c.option.Gives x :=
      fun _ same => Option.some.inj same ▸ ⟨.null, rfl⟩
    exact holds x (place_ok replaced read)

end Lawful

end Fields

namespace Codec

variable {ρ : Type} {fields : Fields ρ ρ} {names : List String} {kept : ρ → Prop} {value : ρ → ρ}
  {given : (ρ → Prop) → Prop}

theorem record_ok {t : Tree} {x : ρ} (read : (record fields).read t = .ok x) :
    (∃ entries, fields.byName entries = .ok x) ∨
      ∃ items rest, fields.byPlace 0 items = .ok (x, rest) := by
  cases t with
  | map entries => exact .inl ⟨entries, mapError_ok.mp read⟩
  | list items =>
      obtain ⟨⟨y, place, others⟩, placed, whole⟩ := bind_ok.mp read
      refine .inr ⟨items, (place, others), ?_⟩
      cases others with
      | nil => exact Except.ok.inj whole ▸ placed
      | cons t others => cases whole
  | _ => cases read

theorem Faithful.record (lawful : fields.Lawful names kept value given) (distinct : names.Nodup)
    (complete : given fun r => kept r ∧ value r = r) : (Codec.record fields).Faithful where
  reread := by
    rintro x ⟨t, read⟩
    obtain ⟨isKept, whole⟩ : kept x ∧ value x = x := by
      rcases record_ok read with ⟨entries, named⟩ | ⟨items, rest, placed⟩
      · exact lawful.yieldsByName complete named
      · exact lawful.yieldsByPlace complete placed
    have once : ((fields.entries x).map (·.1)).Nodup := distinct.sublist (lawful.named x)
    have written : fields.byName (Dict.ofList (fields.entries x)).entries = .ok (value x) :=
      lawful.restored distinct isKept fun name _ => Dict.get?_ofList_of_nodup once name
    rw [whole] at written
    exact mapError_ok.mpr written
  shown _ _ := nofun

end Codec

end JobContainers
