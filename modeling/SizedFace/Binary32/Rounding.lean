import SizedFace.Binary32.Basic

namespace SizedFace

theorem le_roundHalfEven (num den : Nat) : num / den ≤ roundHalfEven num den := by
  unfold roundHalfEven
  split
  · omega
  · split <;> omega

/-- Rounding moves a quotient by half at most. -/
theorem roundHalfEven_bounds (num : Nat) {den : Nat} (pos : 0 < den) :
    2 * num ≤ 2 * (roundHalfEven num den * den) + den ∧
      2 * (roundHalfEven num den * den) ≤ 2 * num + den := by
  have whole := Nat.div_add_mod' num den
  have below := Nat.mod_lt num pos
  have up : (num / den + 1) * den = num / den * den + den := Nat.succ_mul _ _
  unfold roundHalfEven
  split
  · omega
  · split
    · omega
    · -- A half goes to the even neighbour, which is one of the two.
      rcases Nat.mod_two_eq_zero_or_one (num / den) with even | odd
      · rw [even, Nat.add_zero]
        omega
      · rw [odd]
        omega

theorem roundHalfEven_mul_mul (num den : Nat) {c : Nat} (pos : 0 < c) :
    roundHalfEven (num * c) (den * c) = roundHalfEven num den := by
  have twice (n : Nat) : 2 * (n * c) = 2 * n * c := (Nat.mul_assoc 2 n c).symm
  simp only [roundHalfEven, Nat.mul_div_mul_right _ _ pos, Nat.mul_mod_mul_right, twice,
    Nat.mul_lt_mul_right pos]

theorem roundHalfEven_mono_left {a b : Nat} (le : a ≤ b) (den : Nat) :
    roundHalfEven a den ≤ roundHalfEven b den := by
  have quotients : a / den ≤ b / den := Nat.div_le_div_right le
  rcases Nat.lt_or_eq_of_le quotients with less | same
  · calc
      roundHalfEven a den ≤ a / den + 1 := roundHalfEven_le a den
      _ ≤ b / den := less
      _ ≤ roundHalfEven b den := le_roundHalfEven b den
  · -- The quotients are the same, so the remainders are in order.
    have whole := Nat.div_add_mod a den
    have whole' := Nat.div_add_mod b den
    rw [← same] at whole'
    unfold roundHalfEven
    rw [← same]
    repeat' split
    all_goals omega

theorem unitStep_pos (units : Nat) : 0 < unitStep units := twoPow_pos _

theorem twoPow_log2_le {n : Nat} (pos : 0 < n) : twoPow n.log2 ≤ n :=
  Nat.log2_self_le (Nat.ne_of_gt pos)

theorem pos_of_log2_pos {n : Nat} (pos : 0 < n.log2) : 0 < n := by
  refine Nat.pos_of_ne_zero fun none => ?_
  rw [none, Nat.log2_zero] at pos
  omega

/-- Either all whole numbers of units are held, or the step is small beside the number. -/
theorem unitStep_cases (units : Nat) : unitStep units = 1 ∨ unitStep units * twoPow 23 ≤ units := by
  rcases Nat.lt_or_ge 23 units.log2 with long | short
  · right
    rw [unitStep, ← twoPow_add, show units.log2 - 23 + 23 = units.log2 by omega]
    exact twoPow_log2_le (pos_of_log2_pos (by omega))
  · left
    rw [unitStep, show units.log2 - 23 = 0 by omega]
    rfl

theorem log2_mono {a b : Nat} (le : a ≤ b) : a.log2 ≤ b.log2 :=
  log2_le_of_lt_twoPow (Nat.lt_of_le_of_lt le (lt_twoPow_log2 b))

theorem roundUnits_mul_mul (num den : Nat) {c : Nat} (pos : 0 < c) :
    roundUnits (num * c) (den * c) = roundUnits num den := by
  unfold roundUnits
  rw [Nat.mul_div_mul_right _ _ pos, Nat.mul_right_comm, roundHalfEven_mul_mul _ _ pos]

theorem roundUnits_le_twoPow (num den : Nat) :
    roundUnits num den ≤ twoPow ((num / den).log2 - 23 + 24) := by
  rw [Nat.add_comm, twoPow_add]
  exact Nat.mul_le_mul_right _ (roundHalfEven_step_le num den)

theorem twoPow_le_roundUnits {num den : Nat} (long : 23 ≤ (num / den).log2) :
    twoPow (num / den).log2 ≤ roundUnits num den := by
  have split : twoPow (num / den).log2 = twoPow 23 * unitStep (num / den) := by
    rw [unitStep, ← twoPow_add]
    congr 1
    omega
  have quotient : twoPow 23 ≤ num / (den * unitStep (num / den)) := by
    rw [← Nat.div_div_eq_div_mul, Nat.le_div_iff_mul_le (unitStep_pos _), ← split]
    exact twoPow_log2_le (pos_of_log2_pos (by omega))
  rw [split]
  exact Nat.mul_le_mul_right _ (Nat.le_trans quotient (le_roundHalfEven _ _))

theorem roundUnits_mono_left {a b : Nat} (le : a ≤ b) (den : Nat) :
    roundUnits a den ≤ roundUnits b den := by
  have logs : (a / den).log2 ≤ (b / den).log2 := log2_mono (Nat.div_le_div_right le)
  by_cases same : (a / den).log2 - 23 = (b / den).log2 - 23
  · have step : unitStep (a / den) = unitStep (b / den) := by rw [unitStep, same, unitStep]
    unfold roundUnits
    rw [step]
    exact Nat.mul_le_mul_right _ (roundHalfEven_mono_left le _)
  · -- A power of two lies between the two quotients, and neither is rounded past it.
    calc
      roundUnits a den ≤ twoPow ((a / den).log2 - 23 + 24) := roundUnits_le_twoPow a den
      _ ≤ twoPow (b / den).log2 := twoPow_le (by omega)
      _ ≤ roundUnits b den := twoPow_le_roundUnits (by omega)

theorem roundUnits_mono {num den num' den' : Nat} (pos : 0 < den) (pos' : 0 < den')
    (le : num * den' ≤ num' * den) : roundUnits num den ≤ roundUnits num' den' := by
  calc
    roundUnits num den = roundUnits (num * den') (den * den') := (roundUnits_mul_mul _ _ pos').symm
    _ ≤ roundUnits (num' * den) (den * den') := roundUnits_mono_left le _
    _ = roundUnits num' den' := by rw [Nat.mul_comm den den', roundUnits_mul_mul _ _ pos]

end SizedFace
