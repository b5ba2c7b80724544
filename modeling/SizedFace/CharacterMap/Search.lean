namespace SizedFace.CharacterMap

/-- Halves `low ≤ i < high` until `probe` finds its key at `i`: it tells to go below, above, or that
the range at `i` holds the key. It stops where `probe` has no answer. -/
def search (probe : Nat → Option Ordering) (low high : Nat) : Option Nat :=
  if low < high then
    let middle := (low + high) / 2
    match probe middle with
    | none => none
    | some .lt => search probe low middle
    | some .gt => search probe (middle + 1) high
    | some .eq => some middle
  else none
termination_by high - low
decreasing_by all_goals omega

/-- What is found lies in the row and holds the key. -/
theorem search_eq_some {probe : Nat → Option Ordering} {low high i : Nat}
    (h : search probe low high = some i) : low ≤ i ∧ i < high ∧ probe i = some .eq := by
  fun_induction search probe low high with
  | case1 => simp at h
  | case2 low high hlt middle hp ih =>
    obtain ⟨h1, h2, h3⟩ := ih h
    exact ⟨by omega, by omega, h3⟩
  | case3 low high hlt middle hp ih =>
    obtain ⟨h1, h2, h3⟩ := ih h
    exact ⟨by omega, by omega, h3⟩
  | case4 low high hlt middle hp =>
    simp only [Option.some.injEq] at h
    subst h
    exact ⟨by omega, by omega, hp⟩
  | case5 => simp at h

end SizedFace.CharacterMap
