import JobContainers.Codec
import JobContainers.Proofs.Passes

/-!
Codecs whose values survive being written: what has been read is written as a tree that reads as
the same value. The text of a value may have changed by then; numbers are written as texts where
texts are meant, and quantities without their blanks.
-/

set_option autoImplicit false

namespace JobContainers

theorem Quantity.parse_text {input : String} {q : Quantity} (read : parse input = .ok q) :
    parse q.text = .ok q := by
  obtain ⟨body, trimmed⟩ : ∃ body, trimBoth isBlank input.toList = body := ⟨_, rfl⟩
  have again : trimBoth isBlank body = body := by
    rw [← trimmed, trimBoth_idem]
  simp only [parse, trimmed] at read
  split at read
  · cases read
  rename_i written
  split at read
  · cases read
  rename_i mantissa number
  split at read
  · cases read
  rename_i factor suffix
  obtain rfl := Except.ok.inj read
  simp only [parse, String.toList_ofList, again, if_neg written, number, suffix]

namespace Codec

variable {α : Type} {c : Codec α}

def Gives (c : Codec α) (x : α) : Prop := ∃ t, c.read t = .ok x

/-- A value that has been read is read again from what is written for it. Only one that null stands
for may be written as null, which is what tells it from no value at all. -/
structure Faithful (c : Codec α) : Prop where
  reread : ∀ {x}, c.Gives x → c.read (c.write x) = .ok x
  shown : ∀ {t x}, c.read t = .ok x → t ≠ .null → c.write x ≠ .null

theorem integer_ok {least most n : Int} {t : Tree} :
    (integer least most).read t = .ok n ↔ t = .int n ∧ least ≤ n ∧ n ≤ most := by
  constructor
  · intro read
    simp only [integer] at read
    split at read
    · split at read
      · rename_i within
        obtain rfl := Except.ok.inj read
        exact ⟨rfl, within⟩
      · cases read
    · cases read
  · rintro ⟨rfl, within⟩
    exact if_pos within

theorem option_read {t : Tree} (nonnull : t ≠ .null) : c.option.read t = (c.read t).map some := by
  cases t with
  | null => exact absurd rfl nonnull
  | _ => rfl

theorem option_none {t : Tree} (read : c.option.read t = .ok none) : t = .null := by
  refine Decidable.byContradiction fun nonnull => ?_
  rw [option_read nonnull] at read
  obtain ⟨x, -, nothing⟩ := map_ok.mp read
  cases nothing

theorem option_some {t : Tree} {x : α} :
    c.option.read t = .ok (some x) ↔ t ≠ .null ∧ c.read t = .ok x := by
  constructor
  · intro read
    have nonnull : t ≠ .null := by
      rintro rfl
      cases read
    rw [option_read nonnull] at read
    obtain ⟨value, read, same⟩ := map_ok.mp read
    exact ⟨nonnull, Option.some.inj same ▸ read⟩
  · rintro ⟨nonnull, read⟩
    rw [option_read nonnull, read]
    rfl

theorem list_ok {t : Tree} {xs : List α} (read : c.list.read t = .ok xs) : ∀ x ∈ xs, c.Gives x := by
  cases t with
  | list items =>
      intro x member
      obtain ⟨item, -, read⟩ := exists_item (mapM_ok.mp read) member
      exact ⟨item, read⟩
  | _ => cases read

theorem dict_ok {t : Tree} {d : Dict α} (read : c.dict.read t = .ok d) :
    ∀ e ∈ d.entries, c.Gives e.2 := by
  cases t with
  | map entries =>
      obtain ⟨values, made, rfl⟩ := map_ok.mp read
      intro e member
      obtain ⟨entry, -, keyed⟩ := exists_item (mapM_ok.mp made) (Dict.mem_ofList member)
      obtain ⟨x, value, rfl⟩ := map_ok.mp keyed
      exact ⟨entry.2, value⟩
  | _ => cases read

namespace Faithful

theorem tree : Codec.tree.Faithful where
  reread _ := rfl
  shown := by
    rintro t x read nonnull
    obtain rfl := Except.ok.inj read
    exact nonnull

theorem bool : Codec.bool.Faithful where
  reread _ := rfl
  shown _ _ := nofun

theorem string : Codec.string.Faithful where
  reread _ := rfl
  shown _ _ := nofun

theorem integer (least most : Int) : (Codec.integer least most).Faithful where
  reread := by
    rintro n ⟨t, read⟩
    exact integer_ok.mpr ⟨rfl, (integer_ok.mp read).2⟩
  shown _ _ := nofun

theorem natural (bits : Nat) : (Codec.natural bits).Faithful where
  reread := by
    rintro n ⟨t, read⟩
    obtain ⟨i, whole, rfl⟩ := map_ok.mp read
    obtain ⟨-, natural, bounded⟩ := integer_ok.mp whole
    have same : ((i.toNat : Nat) : Int) = i := Int.toNat_of_nonneg natural
    exact map_ok.mpr ⟨i, integer_ok.mpr ⟨congrArg Tree.int same, natural, bounded⟩, rfl⟩
  shown _ _ := nofun

theorem quantity : Codec.quantity.Faithful where
  reread := by
    rintro q ⟨t, read⟩
    obtain ⟨s, -, read⟩ := bind_ok.mp read
    exact bind_ok.mpr ⟨q.text, rfl, mapError_ok.mpr (Quantity.parse_text (mapError_ok.mp read))⟩
  shown _ _ := nofun

theorem option (faithful : c.Faithful) : c.option.Faithful := by
  constructor
  · rintro value ⟨t, read⟩
    cases value with
    | none => rfl
    | some x =>
        obtain ⟨nonnull, read⟩ := option_some.mp read
        exact option_some.mpr ⟨faithful.shown read nonnull, faithful.reread ⟨t, read⟩⟩
  · intro t value read nonnull
    cases value with
    | none => exact absurd (option_none read) nonnull
    | some x => exact faithful.shown (option_some.mp read).2 nonnull

theorem list (faithful : c.Faithful) : c.list.Faithful where
  reread := by
    rintro xs ⟨t, read⟩
    exact mapM_map_inverse fun x member => faithful.reread (list_ok read x member)
  shown _ _ := nofun

theorem dict (faithful : c.Faithful) : c.dict.Faithful where
  reread := by
    rintro d ⟨t, read⟩
    have values : (d.entries.map fun e => (e.1, c.write e.2)).mapM
        (fun e => (c.read e.2).map (e.1, ·)) = .ok d.entries := by
      refine mapM_map_inverse fun e member => ?_
      rw [faithful.reread (dict_ok read e member)]
      rfl
    exact map_ok.mpr ⟨d.entries, values, d.ofList_entries⟩
  shown _ _ := nofun

theorem scalar : Codec.scalar.Faithful where
  reread := by
    rintro value -
    cases value <;> rfl
  shown := by
    intro t value read nonnull
    obtain rfl := Except.ok.inj read
    cases t with
    | null => exact absurd rfl nonnull
    | _ => nofun

theorem scalars : Codec.scalars.Faithful where
  reread := by
    rintro d -
    have texts : (d.entries.map fun e => (e.1, Codec.string.write e.2)).filterMap
        (fun e => (scalarText? e.2).map (e.1, ·)) = d.entries :=
      filterMap_map_inverse fun e _ => rfl
    have read : Codec.scalars.read (Codec.scalars.write d) = .ok (.ofList d.entries) :=
      congrArg (fun entries => Except.ok (Dict.ofList entries)) texts
    rw [read, d.ofList_entries]
  shown _ _ := nofun

end Faithful

end Codec

end JobContainers
