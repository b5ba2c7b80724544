namespace SizedFace

theorem lookup_filter_ne {α β : Type} [BEq α] [LawfulBEq α] [DecidableEq α] (entries : List (α × β))
    {key other : α} (h : other ≠ key) :
    (entries.filter fun entry => entry.1 ≠ key).lookup other = entries.lookup other := by
  induction entries with
  | nil => rfl
  | cons entry rest ih =>
    obtain ⟨own, value⟩ := entry
    by_cases hk : own = key
    · subst hk
      have hb : (other == own) = false := by simpa using h
      rw [List.filter_cons_of_neg (by simp), ih, List.lookup_cons, hb]
    · rw [List.filter_cons_of_pos (by simpa using hk), List.lookup_cons, List.lookup_cons, ih]

theorem lookup_map {α β γ : Type} [BEq α] [LawfulBEq α] (entries : List (α × β)) (f : α → β → γ)
    (key : α) :
    (entries.map fun entry => (entry.1, f entry.1 entry.2)).lookup key =
      (entries.lookup key).map (f key) := by
  induction entries with
  | nil => rfl
  | cons entry rest ih =>
    obtain ⟨own, value⟩ := entry
    simp only [List.map_cons, List.lookup_cons, ih]
    cases same : key == own with
    | true => rw [eq_of_beq same, Option.map_some]
    | false => rfl

end SizedFace
