import JobContainers.Progress
import Mathlib.Data.List.Forall2

/-!
Passes that come to their end. A pass without a fault is a chain of steps without a fault, so
whatever holds step by step holds of the pass.
-/

set_option autoImplicit false

namespace JobContainers

universe u

section Outcome

variable {α β γ ε : Type u}

theorem bind_ok {first : Except ε α} {next : α → Except ε β} {result : β} :
    first >>= next = .ok result ↔ ∃ value, first = .ok value ∧ next value = .ok result := by
  cases first with
  | error cause => simp [bind, Except.bind]
  | ok value => simp [bind, Except.bind]

theorem map_ok {first : Except ε α} {f : α → β} {result : β} :
    first.map f = .ok result ↔ ∃ value, first = .ok value ∧ f value = result := by
  cases first with
  | error cause => simp [Except.map]
  | ok value => simp [Except.map]

theorem mapError_ok {ε' : Type*} {first : Except ε α} {f : ε → ε'} {result : α} :
    first.mapError f = .ok result ↔ first = .ok result := by
  cases first with
  | error cause => simp [Except.mapError]
  | ok value => simp [Except.mapError]

theorem bind_error {first : Except ε α} {next : α → Except ε β} {cause : ε} :
    first >>= next = .error cause ↔
      first = .error cause ∨ ∃ value, first = .ok value ∧ next value = .error cause := by
  cases first with
  | error cause => simp [bind, Except.bind]
  | ok value => simp [bind, Except.bind]

theorem bind_congr_ok {first : Except ε α} {next other : α → Except ε β}
    (same : ∀ value, first = .ok value → next value = other value) :
    first >>= next = first >>= other := by
  cases first with
  | error cause => rfl
  | ok value => exact same value rfl

theorem ok_iff_not_error {outcome : Except ε α} :
    (∃ result, outcome = .ok result) ↔ ¬∃ cause, outcome = .error cause := by
  cases outcome with
  | error cause => simp
  | ok result => simp

theorem exists_ok {f : α → β} {outcome : Except ε α} {value : β}
    (known : outcome.toOption.map f = some value) :
    ∃ result, outcome = .ok result ∧ f result = value := by
  cases outcome with
  | error cause => cases known
  | ok result => exact ⟨result, rfl, Option.some.inj known⟩

theorem mapM_ok {f : α → Except ε β} {items : List α} {results : List β} :
    items.mapM f = .ok results ↔
      List.Forall₂ (fun item result => f item = .ok result) items results := by
  induction items generalizing results with
  | nil => cases results <;> simp [pure, Except.pure]
  | cons item items ih =>
      rw [List.mapM_cons, bind_ok]
      constructor
      · rintro ⟨value, made, rest⟩
        obtain ⟨values, others, same⟩ := bind_ok.mp rest
        cases same
        exact .cons made (ih.mp others)
      · intro made
        cases made with
        | cons first others => exact ⟨_, first, bind_ok.mpr ⟨_, ih.mpr others, rfl⟩⟩

theorem mapM_total {f : α → Except ε β} {items : List α} :
    (∃ results, items.mapM f = .ok results) ↔ ∀ item ∈ items, ∃ result, f item = .ok result := by
  induction items with
  | nil => simp [pure, Except.pure]
  | cons item items ih =>
      rw [List.forall_mem_cons, ← ih]
      simp only [mapM_ok, List.forall₂_cons_left_iff]
      constructor
      · intro done
        obtain ⟨_, result, results, made, others, -⟩ := done
        exact ⟨⟨result, made⟩, results, others⟩
      · intro done
        obtain ⟨⟨result, made⟩, results, others⟩ := done
        exact ⟨result :: results, result, results, made, others, rfl⟩

theorem mapM_mapError {ε' : Type u} {f : α → Except ε β} {g : ε → ε'} {items : List α} :
    (items.mapM fun item => (f item).mapError g) = (items.mapM f).mapError g := by
  induction items with
  | nil => rfl
  | cons item items ih =>
      rw [List.mapM_cons, List.mapM_cons, ih]
      cases f item with
      | error cause => rfl
      | ok value => cases items.mapM f <;> rfl

theorem mapM_map_inverse {write : α → β} {read : β → Except ε α} {items : List α}
    (inverse : ∀ item ∈ items, read (write item) = .ok item) :
    (items.map write).mapM read = .ok items := by
  rw [mapM_ok, List.forall₂_map_left_iff, List.forall₂_same]
  exact inverse

theorem mapM_congr {f g : α → Except ε β} {items : List α} (same : ∀ item ∈ items, f item = g item) :
    items.mapM f = items.mapM g := by
  induction items with
  | nil => rfl
  | cons item items ih =>
      obtain ⟨here, others⟩ := List.forall_mem_cons.mp same
      rw [List.mapM_cons, List.mapM_cons, here, ih others]

theorem flatten_cons {f : α → Except ε (List β)} (item : α) (items : List α) :
    ((item :: items).mapM f).map List.flatten =
      f item >>= fun block => ((items.mapM f).map List.flatten).map (block ++ ·) := by
  rw [List.mapM_cons]
  cases f item with
  | error cause => rfl
  | ok block => cases items.mapM f <;> rfl

theorem flatten_cons_nil {f : α → Except ε (List β)} {item : α} (items : List α)
    (nothing : f item = .ok []) :
    ((item :: items).mapM f).map List.flatten = (items.mapM f).map List.flatten := by
  rw [flatten_cons, nothing]
  cases items.mapM f <;> rfl

/-- A pass over a list fails where the first of its steps does. -/
theorem mapM_error {f : α → Except ε β} {items : List α} {cause : ε} :
    items.mapM f = .error cause ↔ ∃ before item behind, items = before ++ item :: behind ∧
      (∀ earlier ∈ before, ∃ result, f earlier = .ok result) ∧ f item = .error cause := by
  induction items with
  | nil => simp [pure, Except.pure]
  | cons first items ih =>
      rw [List.mapM_cons, bind_error]
      constructor
      · rintro (fails | ⟨value, made, fails⟩)
        · exact ⟨[], first, items, rfl, List.forall_mem_nil _, fails⟩
        · obtain tail | ⟨values, -, joined⟩ := bind_error.mp fails
          · obtain ⟨before, item, behind, rfl, sound, fails⟩ := ih.mp tail
            exact ⟨first :: before, item, behind, rfl,
              List.forall_mem_cons.mpr ⟨⟨value, made⟩, sound⟩, fails⟩
          · cases joined
      · rintro ⟨before, item, behind, split, sound, fails⟩
        cases before with
        | nil =>
            obtain ⟨rfl, rfl⟩ := List.cons.inj split
            exact .inl fails
        | cons earlier before =>
            obtain ⟨rfl, rfl⟩ := List.cons.inj split
            obtain ⟨⟨value, made⟩, sound⟩ := List.forall_mem_cons.mp sound
            exact .inr ⟨value, made, bind_error.mpr (.inl (ih.mpr ⟨before, item, behind, rfl, sound,
              fails⟩))⟩

theorem exists_first {P : α → Prop} {items : List α} :
    (∃ item ∈ items, P item) ↔ ∃ before item behind, items = before ++ item :: behind ∧
      (∀ earlier ∈ before, ¬P earlier) ∧ P item := by
  constructor
  · rintro ⟨item, member, holds⟩
    induction items with
    | nil => cases member
    | cons first items ih =>
        by_cases here : P first
        · exact ⟨[], first, items, rfl, List.forall_mem_nil _, here⟩
        · rcases List.mem_cons.mp member with rfl | member
          · exact absurd holds here
          · obtain ⟨before, found, behind, rfl, none, found_holds⟩ := ih member
            exact ⟨first :: before, found, behind, rfl, List.forall_mem_cons.mpr ⟨here, none⟩,
              found_holds⟩
  · rintro ⟨before, item, behind, rfl, -, holds⟩
    exact ⟨item, List.mem_append_right before List.mem_cons_self, holds⟩

theorem exists_item {R : α → β → Prop} {items : List α} {results : List β} {result : β}
    (related : List.Forall₂ R items results) (member : result ∈ results) :
    ∃ item ∈ items, R item result := by
  induction related with
  | nil => cases member
  | cons first _ ih =>
      rcases List.mem_cons.mp member with rfl | member
      · exact ⟨_, List.mem_cons_self, first⟩
      · obtain ⟨item, inside, found⟩ := ih member
        exact ⟨item, List.mem_cons_of_mem _ inside, found⟩

theorem forall₂_join {R : α → γ → Prop} {S : β → γ → Prop} {T : α → β → Prop} {items : List α}
    {others : List β} {results : List γ} (left : List.Forall₂ R items results)
    (right : List.Forall₂ S others results)
    (join : ∀ item other result, R item result → S other result → T item other) :
    List.Forall₂ T items others := by
  induction left generalizing others with
  | nil =>
      cases right
      exact .nil
  | cons first _ ih =>
      cases right with
      | cons second rest => exact .cons (join _ _ _ first second) (ih rest)

theorem forall₂_iff_forall {R S : α → β → Prop} {P : α → Prop} {items : List α}
    {results : List β} (related : List.Forall₂ R items results)
    (agree : ∀ item result, R item result → (S item result ↔ P item)) :
    List.Forall₂ S items results ↔ ∀ item ∈ items, P item := by
  induction related with
  | nil => simp
  | cons first _ ih => rw [List.forall₂_cons, List.forall_mem_cons, ih, agree _ _ first]

theorem filterMap_eq_map {R : α → β → Prop} {f : α → γ} {g : β → Option γ}
    {items : List α} {results : List β} (related : List.Forall₂ R items results)
    (agree : ∀ item result, R item result → g result = some (f item)) :
    results.filterMap g = items.map f := by
  induction related with
  | nil => rfl
  | cons first _ ih => rw [List.filterMap_cons_some (agree _ _ first), List.map_cons, ih]

theorem map_eq_map {R : α → β → Prop} {f : α → γ} {g : β → γ} {items : List α}
    {results : List β} (related : List.Forall₂ R items results)
    (agree : ∀ item result, R item result → g result = f item) :
    results.map g = items.map f := by
  rw [← List.filterMap_eq_map]
  exact filterMap_eq_map related fun item result made => congrArg some (agree item result made)

theorem forall₂_of_map {f : α → β} {items others : List α}
    (same : items.map f = others.map f) :
    List.Forall₂ (fun item other => f item = f other) items others := by
  rw [← List.forall₂_eq_eq_eq] at same
  rwa [List.forall₂_map_left_iff, List.forall₂_map_right_iff] at same

theorem filterMap_map_inverse {write : α → β} {read : β → Option α} {items : List α}
    (inverse : ∀ item ∈ items, read (write item) = some item) :
    (items.map write).filterMap read = items := by
  induction items with
  | nil => rfl
  | cons item items ih =>
      obtain ⟨first, others⟩ := List.forall_mem_cons.mp inverse
      rw [List.map_cons, List.filterMap_cons_some first, ih others]

end Outcome

namespace Progress

variable {σ α ε : Type u}

theorem fold_induction (step : σ → α → Except ε σ) (motive : σ → List α → σ → Prop)
    (stop : ∀ s, motive s [] s)
    (next : ∀ s x middle xs final, step s x = .ok middle → motive middle xs final →
      motive s (x :: xs) final)
    {s final : σ} {xs : List α} (done : fold step s xs = (final, none)) : motive s xs final := by
  induction xs generalizing s with
  | nil =>
      cases done
      exact stop _
  | cons x xs ih =>
      rw [fold] at done
      cases first : step s x with
      | error cause => simp [first] at done
      | ok middle =>
          rw [first] at done
          exact next s x middle xs final first (ih done)

theorem update_induction (step : σ → α → σ × α × Option ε)
    (motive : σ → List α → σ → List α → Prop)
    (stop : ∀ s, motive s [] s [])
    (next : ∀ s x middle y xs final ys, step s x = (middle, y, none) →
      motive middle xs final ys → motive s (x :: xs) final (y :: ys))
    {s final : σ} {xs ys : List α} (done : update step s xs = (final, ys, none)) :
    motive s xs final ys := by
  induction xs generalizing s ys with
  | nil =>
      cases done
      exact stop _
  | cons x xs ih =>
      rw [update] at done
      split at done
      · simp at done
      · rename_i middle y first
        rcases tail : update step middle xs with ⟨last, rest, fault⟩
        rw [tail] at done
        cases done
        exact next _ x middle y xs _ rest first (ih tail)

/-- A pass comes to its end if its steps do, as long as each of them keeps what the next needs. -/
theorem fold_total (step : σ → α → Except ε σ) (ready : σ → List α → Prop)
    (next : ∀ s x xs, ready s (x :: xs) → ∃ middle, step s x = .ok middle ∧ ready middle xs)
    {s : σ} {xs : List α} (start : ready s xs) : ∃ final, fold step s xs = (final, none) := by
  induction xs generalizing s with
  | nil => exact ⟨s, rfl⟩
  | cons x xs ih =>
      obtain ⟨middle, first, kept⟩ := next s x xs start
      obtain ⟨final, rest⟩ := ih kept
      exact ⟨final, by rw [fold, first]; exact rest⟩

theorem update_total (step : σ → α → σ × α × Option ε) (ready : σ → List α → Prop)
    (next : ∀ s x xs, ready s (x :: xs) →
      ∃ middle y, step s x = (middle, y, none) ∧ ready middle xs)
    {s : σ} {xs : List α} (start : ready s xs) :
    ∃ final ys, update step s xs = (final, ys, none) := by
  induction xs generalizing s with
  | nil => exact ⟨s, [], rfl⟩
  | cons x xs ih =>
      obtain ⟨middle, y, first, kept⟩ := next s x xs start
      obtain ⟨final, ys, rest⟩ := ih kept
      exact ⟨final, y :: ys, by rw [update, first]; simp only [rest]⟩

theorem fold_cons {step : σ → α → Except ε σ} {s middle : σ} {x : α} (xs : List α)
    (first : step s x = .ok middle) : fold step s (x :: xs) = fold step middle xs := by
  rw [fold, first]

theorem fold_cons_fault {step : σ → α → Except ε σ} {s : σ} {x : α} {cause : ε} (xs : List α)
    (first : step s x = .error cause) : fold step s (x :: xs) = (s, some cause) := by
  rw [fold, first]

theorem fold_fault {step : σ → α → Except ε σ} {s final : σ} {xs : List α} {cause : ε} :
    fold step s xs = (final, some cause) ↔
      ∃ before x behind, xs = before ++ x :: behind ∧ fold step s before = (final, none) ∧
        step final x = .error cause := by
  constructor
  · intro stopped
    induction xs generalizing s with
    | nil => cases stopped
    | cons x xs ih =>
        cases first : step s x with
        | error fault =>
            rw [fold_cons_fault xs first] at stopped
            cases stopped
            exact ⟨[], x, xs, rfl, rfl, first⟩
        | ok middle =>
            rw [fold_cons xs first] at stopped
            obtain ⟨before, y, behind, rfl, passed, fails⟩ := ih stopped
            refine ⟨x :: before, y, behind, rfl, ?_, fails⟩
            rw [fold_cons before first, passed]
  · intro stopped
    obtain ⟨before, x, behind, rfl, passed, fails⟩ := stopped
    refine fold_induction step (fun s before final => step final x = .error cause →
      fold step s (before ++ x :: behind) = (final, some cause)) ?_ ?_ passed fails
    · intro s fails
      exact fold_cons_fault behind fails
    · intro s w middle before final first rest fails
      rw [List.cons_append, fold_cons _ first, rest fails]

theorem update_cons {step : σ → α → σ × α × Option ε} {s middle : σ} {x y : α} (xs : List α)
    (first : step s x = (middle, y, none)) :
    update step s (x :: xs) =
      ((update step middle xs).1, y :: (update step middle xs).2.1, (update step middle xs).2.2) := by
  rw [update, first]

theorem update_cons_fault {step : σ → α → σ × α × Option ε} {s final : σ} {x y : α} {cause : ε}
    (xs : List α) (first : step s x = (final, y, some cause)) :
    update step s (x :: xs) = (final, y :: xs, some cause) := by
  rw [update, first]

/-- Items before the one whose step fails are updated, items behind it are not. -/
theorem update_fault {step : σ → α → σ × α × Option ε} {s final : σ} {xs ys : List α}
    {cause : ε} :
    update step s xs = (final, ys, some cause) ↔
      ∃ before x behind middle done y, xs = before ++ x :: behind ∧
        update step s before = (middle, done, none) ∧ step middle x = (final, y, some cause) ∧
        ys = done ++ y :: behind := by
  constructor
  · intro stopped
    induction xs generalizing s ys with
    | nil => cases stopped
    | cons x xs ih =>
        rcases first : step s x with ⟨reached, updated, _ | fault⟩
        · rw [update_cons xs first] at stopped
          rcases tail : update step reached xs with ⟨last, rest, outcome⟩
          rw [tail] at stopped
          cases stopped
          obtain ⟨before, z, behind, middle, done, y, rfl, passed, fails, rfl⟩ := ih tail
          refine ⟨x :: before, z, behind, middle, updated :: done, y, rfl, ?_, fails, rfl⟩
          rw [update_cons before first, passed]
        · rw [update_cons_fault xs first] at stopped
          cases stopped
          exact ⟨[], x, xs, s, [], updated, rfl, rfl, first, rfl⟩
  · intro stopped
    obtain ⟨before, x, behind, middle, done, y, rfl, passed, fails, rfl⟩ := stopped
    -- the items that are done are a pass of their own, so the induction is on it
    refine update_induction step (fun s before middle done =>
      step middle x = (final, y, some cause) →
        update step s (before ++ x :: behind) = (final, done ++ y :: behind, some cause))
      ?_ ?_ passed fails
    · intro s fails
      exact update_cons_fault behind fails
    · intro s w reached updated before middle done first rest fails
      rw [List.cons_append, update_cons _ first, rest fails]
      rfl

def outcome {β : Type u} (result : σ × β × Option ε) : σ × Option ε := (result.1, result.2.2)

theorem exists_of_outcome {β : Type u} {result other : σ × β × Option ε} {s : σ} {items : β}
    {fault : Option ε} (same : outcome result = outcome other) (is : result = (s, items, fault)) :
    ∃ others, other = (s, others, fault) := by
  obtain ⟨reached, others, cause⟩ := other
  rw [is] at same
  obtain ⟨rfl, rfl⟩ := Prod.mk.inj same
  exact ⟨others, rfl⟩

theorem update_map {f : α → α} {step twin : σ → α → σ × α × Option ε}
    (alike : ∀ s x, outcome (step s (f x)) = outcome (twin s x)) (s : σ) (xs : List α) :
    outcome (update step s (xs.map f)) = outcome (update twin s xs) := by
  induction xs generalizing s with
  | nil => rfl
  | cons x xs ih =>
      rw [List.map_cons, update, update]
      have same := alike s x
      rcases first : step s (f x) with ⟨middle, y, fault⟩
      rcases second : twin s x with ⟨reached, z, cause⟩
      rw [first, second] at same
      obtain ⟨rfl, rfl⟩ := Prod.mk.inj same
      cases fault with
      | some cause => rfl
      | none => exact ih middle

end Progress

end JobContainers
