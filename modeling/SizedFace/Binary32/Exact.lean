import SizedFace.Binary32.Basic

namespace SizedFace

theorem roundHalfEven_mul (n : Nat) {den : Nat} (pos : 0 < den) :
    roundHalfEven (n * den) den = n := by
  have none_left : n * den % den = 0 := Nat.mul_mod_left n den
  have quotient : n * den / den = n := Nat.mul_div_cancel n pos
  unfold roundHalfEven
  rw [none_left, quotient, if_pos (by omega)]

/-- A multiple of its own step is not rounded. -/
theorem roundUnits_mul {n den : Nat} (dvd : unitStep n ∣ n) (pos : 0 < den) :
    roundUnits (n * den) den = n := by
  obtain ⟨k, multiple⟩ := dvd
  have step_pos : 0 < unitStep n := twoPow_pos _
  have quotient : n * den / den = n := Nat.mul_div_cancel n pos
  have counted : n * den = k * (den * unitStep n) := by
    calc
      n * den = unitStep n * k * den := by rw [← multiple]
      _ = k * (den * unitStep n) := by rw [Nat.mul_comm (unitStep n) k, Nat.mul_assoc,
        Nat.mul_comm (unitStep n) den]
  unfold roundUnits
  rw [quotient, counted, roundHalfEven_mul k (Nat.mul_pos pos step_pos), Nat.mul_comm, ← multiple]

/-- A whole number of at most 24 bits is held in units of any smaller size. -/
theorem held_mul {n : Nat} (short : n < twoPow 24) : Held (n * twoPow 149) := by
  have below : n * twoPow 149 < twoPow (172 + 1) := by
    have wide : twoPow (172 + 1) = twoPow 24 * twoPow 149 := twoPow_add 24 149
    rw [wide]
    exact Nat.mul_lt_mul_of_pos_right short (twoPow_pos 149)
  have log := log2_le_of_lt_twoPow below
  refine ⟨by omega, ?_⟩
  have dvd : unitStep (n * twoPow 149) ∣ twoPow 149 := twoPow_dvd (by omega)
  exact Nat.dvd_trans dvd (Nat.dvd_mul_left _ _)

namespace Binary32

theorem ofUnits_mul (negative : Bool) {n den : Nat} (held : Held n) (pos : 0 < den) :
    ofUnits negative (n * den) den = .finite negative n held := by
  have exact_units := roundUnits_mul held.2 pos
  simp only [ofUnits, exact_units, held.1, dif_pos]

theorem ofRatio_mul (negative : Bool) {n den : Nat} (short : n < twoPow 24) (pos : 0 < den) :
    ofRatio negative (n * den) den = .finite negative (n * twoPow 149) (held_mul short) := by
  have units : n * den * twoPow 149 = n * twoPow 149 * den := Nat.mul_right_comm _ _ _
  rw [ofRatio, units]
  exact ofUnits_mul negative (held_mul short) pos

theorem ofInt_eq {i : Int} (short : i.natAbs < twoPow 24) :
    ofInt i = .finite (i < 0) (i.natAbs * twoPow 149) (held_mul short) := by
  have whole := ofRatio_mul (i < 0) short Nat.one_pos
  rw [Nat.mul_one] at whole
  exact whole

/-- A whole number that comes in parts is that number. -/
theorem ofFixed_eq {i : Int} (short : i.natAbs < twoPow 24) (bits : Nat) :
    ofFixed (i * twoPow bits) bits = ofInt i := by
  have pos : (0 : Int) < twoPow bits := by exact_mod_cast twoPow_pos bits
  have sign : i * twoPow bits < 0 ↔ i < 0 := by
    constructor
    · intro below
      refine Int.not_le.1 fun above => ?_
      exact Int.not_le.2 below (Int.mul_nonneg above (Int.le_of_lt pos))
    · intro below
      exact Int.mul_neg_of_neg_of_pos below pos
  have size : (i * twoPow bits).natAbs = i.natAbs * twoPow bits := by
    rw [Int.natAbs_mul, Int.natAbs_natCast]
  simp only [ofFixed, sign, size]
  rw [ofRatio_mul _ short (twoPow_pos bits), ofInt_eq short]

/-- A number is this whole number, neither more nor less. -/
def IsInt (x : Binary32) (i : Int) : Prop :=
  ∃ negative units held, x = .finite negative units held ∧
    signedUnits negative units = i * twoPow 149

theorem isInt_ofInt {i : Int} (short : i.natAbs < twoPow 24) : (ofInt i).IsInt i := by
  refine ⟨_, _, _, ofInt_eq short, ?_⟩
  by_cases below : i < 0
  · have size : (i.natAbs : Int) = -i := by omega
    simp only [signedUnits, below, decide_true, if_true, Int.natCast_mul, size, Int.neg_mul,
      Int.neg_neg]
  · have size : (i.natAbs : Int) = i := by omega
    simp only [signedUnits, below, decide_false, Bool.false_eq_true, if_false, Int.natCast_mul,
      size]

theorem IsInt.unique {x : Binary32} {i j : Int} (first : x.IsInt i) (second : x.IsInt j) :
    i = j := by
  obtain ⟨negative, units, held, rfl, value⟩ := first
  obtain ⟨_, _, _, same, value'⟩ := second
  cases same
  have pos : (0 : Int) < twoPow 149 := by exact_mod_cast twoPow_pos 149
  exact Int.eq_of_mul_eq_mul_right (Int.ne_of_gt pos) (value.symm.trans value')

end Binary32
end SizedFace
