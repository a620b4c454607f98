import Mathlib.Data.List.Forall2

set_option autoImplicit false

namespace JobContainers

universe u

variable {α β γ δ ε ι κ : Type u}

/-- Both fail for one cause, or both give results, which are related. -/
inductive Agree (R : α → β → Prop) : Except ε α → Except ε β → Prop
  | error (cause : ε) : Agree R (.error cause) (.error cause)
  | ok {a : α} {b : β} (related : R a b) : Agree R (.ok a) (.ok b)

theorem agree_ok {R : α → β → Prop} {x : Except ε α} {y : Except ε β} {a : α} {b : β}
    (related : Agree R x y) (left : x = .ok a) (right : y = .ok b) : R a b := by
  rw [left, right] at related
  cases related with
  | ok related => exact related

theorem agree_of_map {f : α → γ} {g : β → γ} {x : Except ε α} {y : Except ε β}
    (same : x.map f = y.map g) : Agree (fun a b => f a = g b) x y := by
  cases x with
  | error cause =>
      cases y with
      | error other =>
          cases same
          exact .error cause
      | ok b => cases same
  | ok a =>
      cases y with
      | error other => cases same
      | ok b => exact .ok (Except.ok.inj same)

theorem agree_imp {R S : α → β → Prop} {x : Except ε α} {y : Except ε β} (related : Agree R x y)
    (next : ∀ a b, x = .ok a → y = .ok b → R a b → S a b) : Agree S x y := by
  cases related with
  | error cause => exact .error cause
  | ok related => exact .ok (next _ _ rfl rfl related)

theorem agree_bind {R : α → β → Prop} {S : γ → δ → Prop} {x : Except ε α} {y : Except ε β}
    {f : α → Except ε γ} {g : β → Except ε δ} (first : Agree R x y)
    (next : ∀ a b, x = .ok a → y = .ok b → R a b → Agree S (f a) (g b)) :
    Agree S (x >>= f) (y >>= g) := by
  cases first with
  | error cause => exact .error cause
  | ok related => exact next _ _ rfl rfl related

theorem agree_bind_same {S : γ → δ → Prop} {x : Except ε α} {f : α → Except ε γ}
    {g : α → Except ε δ} (next : ∀ a, x = .ok a → Agree S (f a) (g a)) :
    Agree S (x >>= f) (x >>= g) := by
  cases x with
  | error cause => exact .error cause
  | ok a => exact next a rfl

theorem agree_mapM₂ {R : α → β → Prop} {f : ι → Except ε α} {g : κ → Except ε β}
    {items : List ι} {others : List κ}
    (each : List.Forall₂ (fun i j => Agree R (f i) (g j)) items others) :
    Agree (List.Forall₂ R) (items.mapM f) (others.mapM g) := by
  induction each with
  | nil =>
      rw [List.mapM_nil, List.mapM_nil]
      exact .ok .nil
  | cons here _ ih =>
      rw [List.mapM_cons, List.mapM_cons]
      apply agree_bind here
      intro a b _ _ related
      apply agree_bind ih
      intro xs ys _ _ others
      exact .ok (.cons related others)

theorem agree_mapM {R : ι → α → β → Prop} {f : ι → Except ε α} {g : ι → Except ε β}
    {items : List ι} (each : ∀ i ∈ items, Agree (R i) (f i) (g i)) :
    Agree (fun xs ys => ∃ pairs : List (α × β),
        List.Forall₂ (fun i pair => R i pair.1 pair.2) items pairs ∧
        xs = pairs.map (·.1) ∧ ys = pairs.map (·.2))
      (items.mapM f) (items.mapM g) := by
  induction items with
  | nil =>
      rw [List.mapM_nil, List.mapM_nil]
      exact .ok ⟨[], .nil, rfl, rfl⟩
  | cons i items ih =>
      obtain ⟨here, others⟩ := List.forall_mem_cons.mp each
      rw [List.mapM_cons, List.mapM_cons]
      apply agree_bind here
      intro a b _ _ related
      apply agree_bind (ih others)
      intro xs ys _ _ paired
      obtain ⟨pairs, all, left, right⟩ := paired
      refine .ok ⟨(a, b) :: pairs, .cons related all, ?_, ?_⟩
      · rw [left, List.map_cons]
      · rw [right, List.map_cons]

end JobContainers
