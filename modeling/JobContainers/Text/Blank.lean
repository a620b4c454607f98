set_option autoImplicit false

namespace JobContainers

def blankRanges : List (Nat × Nat) :=
  [(0x09, 0x0d), (0x20, 0x20), (0x85, 0x85), (0xa0, 0xa0), (0x1680, 0x1680), (0x2000, 0x200a),
    (0x2028, 0x2029), (0x202f, 0x202f), (0x205f, 0x205f), (0x3000, 0x3000)]

def isBlank (c : Char) : Bool := blankRanges.any fun r => r.1 ≤ c.toNat && c.toNat ≤ r.2

/-- Drops the elements of a class from both ends. -/
def trimBoth (cls : Char → Bool) (cs : List Char) : List Char :=
  ((cs.dropWhile cls).reverse.dropWhile cls).reverse

theorem dropWhile_of_prefix {cls : Char → Bool} {front cs : List Char}
    (first : front <+: cs.dropWhile cls) : front.dropWhile cls = front := by
  induction cs with
  | nil =>
    obtain rfl := List.prefix_nil.mp first
    rfl
  | cons c cs ih =>
    by_cases dropped : cls c = true
    · rw [List.dropWhile_cons_of_pos dropped] at first
      exact ih first
    · rw [List.dropWhile_cons_of_neg dropped] at first
      cases front with
      | nil => rfl
      | cons d front =>
        obtain ⟨rfl, -⟩ := List.cons_prefix_cons.mp first
        exact List.dropWhile_cons_of_neg dropped

theorem dropWhile_trimBoth (cls : Char → Bool) (cs : List Char) :
    (trimBoth cls cs).dropWhile cls = trimBoth cls cs := by
  have kept : trimBoth cls cs <+: cs.dropWhile cls := by
    rw [trimBoth, ← List.reverse_suffix, List.reverse_reverse]
    exact List.dropWhile_suffix cls
  exact dropWhile_of_prefix kept

theorem head?_dropWhile {α : Type} (cls : α → Bool) (xs : List α) :
    ∀ x ∈ (xs.dropWhile cls).head?, cls x = false := by
  intro x head
  have outside := List.head?_dropWhile_not cls xs
  rw [Option.mem_def.mp head] at outside
  exact outside

theorem head?_trimBoth (cls : Char → Bool) (cs : List Char) :
    ∀ c ∈ (trimBoth cls cs).head?, cls c = false := by
  rw [← dropWhile_trimBoth]
  exact head?_dropWhile cls _

theorem getLast?_trimBoth (cls : Char → Bool) (cs : List Char) :
    ∀ c ∈ (trimBoth cls cs).getLast?, cls c = false := by
  intro c last
  rw [trimBoth, List.getLast?_reverse] at last
  exact head?_dropWhile cls _ c last

theorem trimBoth_idem (cls : Char → Bool) (cs : List Char) :
    trimBoth cls (trimBoth cls cs) = trimBoth cls cs := by
  rw [trimBoth, dropWhile_trimBoth, trimBoth, List.reverse_reverse,
    dropWhile_of_prefix (List.prefix_refl _)]

end JobContainers
