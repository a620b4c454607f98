import JobContainers.Proofs.DocumentPlaces
import JobContainers.Proofs.FloatText

/-!
Documents that have no property tree. A document is refused for a place in it: an alias or a bad
node, a number whose text does not read as one, or a key that is no scalar. The fault is that of
the first such place in the order of the document.
-/

set_option autoImplicit false

namespace JobContainers.Yaml.Node

/-- A step from a node into it, by number: to an item of a sequence, or to the key or the value of
an entry of a mapping. -/
inductive Step where
  | item (index : Nat)
  | key (index : Nat)
  | value (index : Nat)
  deriving DecidableEq

def Step.rank : Step → Nat
  | .item i => i
  | .key i => 2 * i
  | .value i => 2 * i + 1

/-- Whether a place comes before another one in the order of the document: at the first step where
they part it takes the earlier one. -/
def Precedes (place other : List Step) : Prop :=
  List.Lex (fun step next => step.rank < next.rank) place other

theorem Precedes.asymm {place other : List Step} (before : Precedes place other) :
    ¬Precedes other place := by
  induction before with
  | nil => nofun
  | rel earlier =>
      intro behind
      cases behind with
      | rel later => exact lt_asymm earlier later
      | cons _ => exact lt_irrefl _ earlier
  | cons _ ih =>
      intro behind
      cases behind with
      | rel later => exact lt_irrefl _ later
      | cons rest => exact ih rest

inductive Textless : Node → Prop where
  | sequence (items : List Node) : Textless (.sequence items)
  | mapping (entries : List (Node × Node)) : Textless (.mapping entries)
  | alias (anchor : Nat) : Textless (.alias anchor)
  | bad : Textless .bad

/-- At a place of the node stands something that has no tree. -/
inductive Refuses : Node → List Step → Error → Prop where
  | alias (anchor : Nat) : Refuses (.alias anchor) [] .aliasNode
  | bad : Refuses .bad [] .badNode
  | real {text : String} (unread : ¬FloatText text.toList) :
      Refuses (.real text) [] (.ofFloatText text)
  | item {items : List Node} {i : Nat} {n : Node} {place : List Step} {cause : Error}
      (found : items[i]? = some n) (below : Refuses n place cause) :
      Refuses (.sequence items) (.item i :: place) cause
  | key {entries : List (Node × Node)} {i : Nat} {k n : Node} (found : entries[i]? = some (k, n))
      (textless : k.Textless) : Refuses (.mapping entries) [.key i] .keyNode
  | value {entries : List (Node × Node)} {i : Nat} {k n : Node} {place : List Step} {cause : Error}
      (found : entries[i]? = some (k, n)) (below : Refuses n place cause) :
      Refuses (.mapping entries) (.value i :: place) cause

structure FirstRefusal (n : Node) (place : List Step) (cause : Error) : Prop where
  refuses : n.Refuses place cause
  earliest : ∀ other fault, n.Refuses other fault → other = place ∨ Precedes place other

theorem firstRefusal_iff {n : Node} {place : List Step} {cause : Error} :
    n.FirstRefusal place cause ↔ n.Refuses place cause ∧
      ∀ other fault, n.Refuses other fault → other = place ∨ Precedes place other :=
  ⟨fun first => ⟨first.refuses, first.earliest⟩, fun ⟨refuses, earliest⟩ => ⟨refuses, earliest⟩⟩

theorem Refuses.unique {n : Node} {place : List Step} {cause fault : Error}
    (one : n.Refuses place cause) (other : n.Refuses place fault) : cause = fault := by
  induction one with
  | «alias» | bad | real | key =>
      cases other
      rfl
  | item found _ ih =>
      cases other with
      | item again below =>
          obtain rfl := Option.some.inj (found.symm.trans again)
          exact ih below
  | value found _ ih =>
      cases other with
      | value again below =>
          cases Option.some.inj (found.symm.trans again)
          exact ih below

theorem FirstRefusal.unique {n : Node} {place other : List Step} {cause fault : Error}
    (one : n.FirstRefusal place cause) (two : n.FirstRefusal other fault) : cause = fault := by
  have same : place = other := by
    rcases one.earliest other fault two.refuses with same | before
    · exact same.symm
    · rcases two.earliest place cause one.refuses with same | behind
      · exact same
      · exact absurd behind before.asymm
  subst same
  exact one.refuses.unique two.refuses

/-! Faults of scalars and keys -/

theorem realTree_error {text : String} {cause : Error} :
    realTree text = .error cause ↔ ¬FloatText text.toList ∧ cause = .ofFloatText text := by
  rw [realTree, ← readsAsFloat_iff, readsAsFloat]
  cases Decimal.ofChars? text.toList with
  | some d => simp
  | none => cases isNonFinite text.toList <;> simp [eq_comm]

theorem keyText_error {k : Node} {cause : Error} :
    k.keyText = .error cause ↔ k.Textless ∧ cause = .keyNode := by
  constructor
  · intro fails
    cases k with
    | null | bool | int | real | string => cases fails
    | sequence | mapping | «alias» | bad =>
        cases fails
        exact ⟨by constructor, rfl⟩
  · rintro ⟨textless, rfl⟩
    cases textless <;> rfl

theorem not_textless {k : Node} {key : String} (text : k.keyText = .ok key) : ¬k.Textless := by
  intro textless
  rw [keyText_error.mpr ⟨textless, rfl⟩] at text
  cases text

theorem toTree_sequence_error {items : List Node} {cause : Error} :
    (Node.sequence items).toTree = .error cause ↔ items.mapM toTree = .error cause := by
  rw [toTree, bind_error, itemTrees_eq]
  refine or_iff_left ?_
  rintro ⟨trees, -, made⟩
  cases made

theorem toTree_mapping_error {entries : List (Node × Node)} {cause : Error} :
    (Node.mapping entries).toTree = .error cause ↔ entries.mapM entryTree = .error cause := by
  rw [toTree, bind_error, entryTrees_eq]
  refine or_iff_left ?_
  rintro ⟨pairs, -, made⟩
  cases made

theorem entryTree_error {k n : Node} {cause : Error} :
    entryTree (k, n) = .error cause ↔
      k.keyText = .error cause ∨ (∃ key, k.keyText = .ok key) ∧ n.toTree = .error cause := by
  rw [entryTree, bind_error]
  refine or_congr_right ?_
  constructor
  · rintro ⟨key, text, fails⟩
    rcases bind_error.mp fails with value | ⟨t, -, made⟩
    · exact ⟨⟨key, text⟩, value⟩
    · cases made
  · rintro ⟨⟨key, text⟩, value⟩
    exact ⟨key, text, bind_error.mpr (.inl value)⟩

/-! The first place that is refused -/

theorem Refuses.not_ok {n : Node} {place : List Step} {cause : Error}
    (refuses : n.Refuses place cause) (t : Tree) : n.toTree ≠ .ok t := by
  induction refuses generalizing t with
  | «alias» | bad => nofun
  | real unread =>
      rw [toTree, realTree_error.mpr ⟨unread, rfl⟩]
      nofun
  | item found _ ih =>
      intro done
      obtain ⟨trees, each, -⟩ := bind_ok.mp done
      rw [itemTrees_eq] at each
      obtain ⟨u, made⟩ := mapM_total.mp ⟨trees, each⟩ _ (List.mem_of_getElem? found)
      exact ih u made
  | key found textless =>
      intro done
      obtain ⟨pairs, each, -⟩ := bind_ok.mp done
      rw [entryTrees_eq] at each
      obtain ⟨p, made⟩ := mapM_total.mp ⟨pairs, each⟩ _ (List.mem_of_getElem? found)
      exact not_textless (entryTree_ok.mp made).1 textless
  | value found _ ih =>
      intro done
      obtain ⟨pairs, each, -⟩ := bind_ok.mp done
      rw [entryTrees_eq] at each
      obtain ⟨p, made⟩ := mapM_total.mp ⟨pairs, each⟩ _ (List.mem_of_getElem? found)
      exact ih p.2 (entryTree_ok.mp made).2

theorem getElem?_split {α : Type} {before behind : List α} {x y : α} {j : Nat}
    (found : (before ++ x :: behind)[j]? = some y) :
    y ∈ before ∨ (y = x ∧ j = before.length) ∨ before.length < j := by
  rcases lt_trichotomy j before.length with earlier | here | later
  · rw [List.getElem?_append_left earlier] at found
    exact .inl (List.mem_of_getElem? found)
  · subst here
    rw [List.getElem?_append_right le_rfl, Nat.sub_self] at found
    exact .inr (.inl ⟨(Option.some.inj found).symm, rfl⟩)
  · exact .inr (.inr later)

theorem FirstRefusal.root {n : Node} {cause : Error} (refuses : n.Refuses [] cause) :
    n.FirstRefusal [] cause := by
  refine ⟨refuses, ?_⟩
  intro other fault _
  cases other with
  | nil => exact .inl rfl
  | cons step rest => exact .inr .nil

theorem FirstRefusal.sequence {before behind : List Node} {item : Node} {place : List Step}
    {cause : Error} (sound : ∀ m ∈ before, ∃ t, m.toTree = .ok t)
    (here : item.FirstRefusal place cause) :
    (Node.sequence (before ++ item :: behind)).FirstRefusal (.item before.length :: place)
      cause := by
  refine ⟨.item (by simp) here.refuses, ?_⟩
  intro other fault refuses
  cases refuses with
  | @item _ j m rest _ found below =>
      rcases getElem?_split found with earlier | ⟨rfl, rfl⟩ | later
      · obtain ⟨t, done⟩ := sound m earlier
        exact absurd done (below.not_ok t)
      · rcases here.earliest rest fault below with rfl | behind
        · exact .inl rfl
        · exact .inr (.cons behind)
      · exact .inr (.rel later)

variable {before behind : List (Node × Node)} {k n : Node} {cause : Error}

theorem FirstRefusal.key (sound : ∀ e ∈ before, ∃ p, entryTree e = .ok p) (textless : k.Textless) :
    (Node.mapping (before ++ (k, n) :: behind)).FirstRefusal [.key before.length] .keyNode := by
  have here : (before ++ (k, n) :: behind)[before.length]? = some (k, n) := by simp
  refine ⟨.key here textless, ?_⟩
  intro other fault refuses
  cases refuses with
  | key found textless =>
      rcases getElem?_split found with earlier | ⟨-, rfl⟩ | later
      · obtain ⟨p, done⟩ := sound _ earlier
        exact absurd textless (not_textless (entryTree_ok.mp done).1)
      · exact .inl rfl
      · exact .inr (.rel (by simp only [Step.rank]; omega))
  | value found below =>
      rcases getElem?_split found with earlier | ⟨-, rfl⟩ | later
      · obtain ⟨p, done⟩ := sound _ earlier
        exact absurd (entryTree_ok.mp done).2 (below.not_ok _)
      · exact .inr (.rel (Nat.lt_succ_self _))
      · exact .inr (.rel (by simp only [Step.rank]; omega))

theorem FirstRefusal.value {place : List Step} (sound : ∀ e ∈ before, ∃ p, entryTree e = .ok p)
    (spelled : ¬k.Textless) (first : n.FirstRefusal place cause) :
    (Node.mapping (before ++ (k, n) :: behind)).FirstRefusal (.value before.length :: place)
      cause := by
  have here : (before ++ (k, n) :: behind)[before.length]? = some (k, n) := by simp
  refine ⟨.value here first.refuses, ?_⟩
  intro other fault refuses
  cases refuses with
  | key found textless =>
      rcases getElem?_split found with earlier | ⟨same, rfl⟩ | later
      · obtain ⟨p, done⟩ := sound _ earlier
        exact absurd textless (not_textless (entryTree_ok.mp done).1)
      · cases same
        exact absurd textless spelled
      · exact .inr (.rel (by simp only [Step.rank]; omega))
  | @value _ j _ _ rest _ found below =>
      rcases getElem?_split found with earlier | ⟨same, rfl⟩ | later
      · obtain ⟨p, done⟩ := sound _ earlier
        exact absurd (entryTree_ok.mp done).2 (below.not_ok _)
      · cases same
        rcases first.earliest rest fault below with rfl | behind
        · exact .inl rfl
        · exact .inr (.cons behind)
      · exact .inr (.rel (by simp only [Step.rank]; omega))

theorem exists_firstRefusal {n : Node} {cause : Error} (fails : n.toTree = .error cause) :
    ∃ place, n.FirstRefusal place cause := by
  -- the first item or entry that fails has its own first place, and nothing in front of it is refused
  induction n using parts_induction generalizing cause with
  | step n ih =>
  cases n with
  | null | bool | int | string => cases fails
  | «alias» a =>
      cases fails
      exact ⟨[], .root (.alias a)⟩
  | bad =>
      cases fails
      exact ⟨[], .root .bad⟩
  | real text =>
      obtain ⟨unread, rfl⟩ := realTree_error.mp fails
      exact ⟨[], .root (.real unread)⟩
  | sequence items =>
      obtain ⟨before, item, behind, rfl, sound, fails⟩ :=
        mapM_error.mp (toTree_sequence_error.mp fails)
      obtain ⟨place, here⟩ := ih item (List.mem_append_right before List.mem_cons_self) fails
      exact ⟨_, .sequence sound here⟩
  | mapping entries =>
      obtain ⟨before, ⟨k, m⟩, behind, rfl, sound, fails⟩ :=
        mapM_error.mp (toTree_mapping_error.mp fails)
      rcases entryTree_error.mp fails with keyFails | ⟨⟨key, text⟩, valueFails⟩
      · obtain ⟨textless, rfl⟩ := keyText_error.mp keyFails
        exact ⟨_, .key sound textless⟩
      · have part : m ∈ (Node.mapping (before ++ (k, m) :: behind)).parts := by simp [parts]
        obtain ⟨place, here⟩ := ih m part valueFails
        exact ⟨_, .value sound (not_textless text) here⟩

theorem fails_iff {n : Node} :
    (∃ cause, n.toTree = .error cause) ↔ ∃ place cause, n.Refuses place cause := by
  constructor
  · rintro ⟨cause, fails⟩
    obtain ⟨place, first⟩ := exists_firstRefusal fails
    exact ⟨place, cause, first.refuses⟩
  · rintro ⟨place, cause, refuses⟩
    cases outcome : n.toTree with
    | error fault => exact ⟨fault, rfl⟩
    | ok t => exact absurd outcome (refuses.not_ok t)

theorem toTree_error_iff {n : Node} {cause : Error} :
    n.toTree = .error cause ↔ ∃ place, n.FirstRefusal place cause := by
  constructor
  · exact exists_firstRefusal
  · rintro ⟨place, first⟩
    obtain ⟨fault, fails⟩ := fails_iff.mpr ⟨place, cause, first.refuses⟩
    obtain ⟨other, again⟩ := exists_firstRefusal fails
    rw [fails, first.unique again]

theorem mem_keys_of_real {entries : List (Node × Node)} {text : String} {m : Node} {t : Tree}
    (member : (.real text, m) ∈ entries) (done : (Node.mapping entries).toTree = .ok t) :
    ∃ d : Dict Tree, t = .ofDict d ∧ text ∈ d.keys := by
  obtain ⟨pairs, each, same⟩ := bind_ok.mp done
  cases same
  obtain ⟨p, inside, spelled, -⟩ := exists_item (entryTrees_ok each).flip member
  obtain rfl := Except.ok.inj spelled
  exact ⟨.ofList pairs, rfl, Dict.mem_keys_ofList.mpr (List.mem_map_of_mem inside)⟩

/-- A document has no tree exactly if a place in it is refused, and its fault is then that of the
first such place. A number that is a key is never refused, and the key is its text. -/
theorem toTree_refused (n : Node) :
    ((∃ cause, n.toTree = .error cause) ↔ ∃ place cause, n.Refuses place cause) ∧
    (∀ cause, n.toTree = .error cause ↔ ∃ place, n.Refuses place cause ∧
      ∀ other fault, n.Refuses other fault → other = place ∨ Precedes place other) ∧
    ∀ entries i text m, n = .mapping entries → entries[i]? = some (.real text, m) →
      (∀ cause, ¬n.Refuses [.key i] cause) ∧
      ∀ t, n.toTree = .ok t → ∃ d : Dict Tree, t = .ofDict d ∧ text ∈ d.keys := by
  refine ⟨fails_iff, ?_, ?_⟩
  · intro cause
    rw [toTree_error_iff]
    exact exists_congr fun place => firstRefusal_iff
  · rintro entries i text m rfl found
    refine ⟨?_, fun t done => mem_keys_of_real (List.mem_of_getElem? found) done⟩
    intro cause refuses
    cases refuses with
    | key again textless =>
        cases Option.some.inj (found.symm.trans again)
        cases textless

namespace Crowded

def node : Node :=
  .mapping [
    (.string "a", .sequence [.int 1,
      .mapping [(.real ".nan", .real ".inf"), (.sequence [], .alias 3)]]),
    (.null, .bad)]

def keyed : Node := .mapping [(.real ".nan", .null), (.real "1e400", .real "1e400")]

end Crowded

theorem Crowded.first :
    Crowded.node.FirstRefusal [.value 0, .item 1, .value 0] .floatText := by
  have unread : ¬FloatText ".inf".toList := by
    rw [← readsAsFloat_iff]
    decide
  have inner := @FirstRefusal.value [] [(.sequence [], .alias 3)] (.real ".nan") (.real ".inf")
    .floatText [] (List.forall_mem_nil _) nofun (.root (.real unread))
  have middle := @FirstRefusal.sequence [.int 1] [] _ _ _
    (List.forall_mem_singleton.mpr ⟨.int 1, rfl⟩) inner
  exact @FirstRefusal.value [] [(.null, .bad)] (.string "a") _ _ _ (List.forall_mem_nil _) nofun
    middle

theorem toTree_refused_crowded :
    Crowded.node.Refuses [.value 0, .item 1, .value 0] .floatText ∧
      (∀ other fault, Crowded.node.Refuses other fault →
        other = [.value 0, .item 1, .value 0] ∨ Precedes [.value 0, .item 1, .value 0] other) ∧
      Crowded.node.toTree = .error .floatText ∧
      ∃ d : Dict Tree, Crowded.keyed.toTree = .ok (.ofDict d) ∧ ".nan" ∈ d.keys := by
  obtain ⟨-, fails, -⟩ := toTree_refused Crowded.node
  obtain ⟨-, -, keys⟩ := toTree_refused Crowded.keyed
  obtain ⟨refuses, earliest⟩ := Crowded.first
  have converts : Crowded.keyed.toTree.toOption.isSome = true := by decide
  refine ⟨refuses, earliest, (fails .floatText).mpr ⟨_, refuses, earliest⟩, ?_⟩
  cases outcome : Crowded.keyed.toTree with
  | error cause =>
      rw [outcome] at converts
      cases converts
  | ok t =>
      obtain ⟨d, rfl, kept⟩ := (keys _ 0 ".nan" .null rfl rfl).2 t outcome
      exact ⟨d, rfl, kept⟩

end JobContainers.Yaml.Node
