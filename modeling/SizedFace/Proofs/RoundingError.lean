import Mathlib.Algebra.Order.Field.Rat
import Mathlib.Data.Nat.Cast.Order.Field
import Mathlib.Tactic.FieldSimp
import Mathlib.Tactic.Linarith
import Mathlib.Tactic.Positivity
import Mathlib.Tactic.Ring
import SizedFace.Binary32.Exact
import SizedFace.Binary32.Rounding

namespace SizedFace

theorem cast_twoPow_pos (k : Nat) : (0 : ℚ) < twoPow k := by exact_mod_cast twoPow_pos k

theorem cast_twoPow_add (a b : Nat) : (twoPow (a + b) : ℚ) = twoPow a * twoPow b := by
  exact_mod_cast twoPow_add a b

theorem roundHalfEven_near (num : Nat) {den : Nat} (pos : 0 < den) :
    |(roundHalfEven num den : ℚ) - num / den| ≤ 1 / 2 := by
  obtain ⟨up, down⟩ := roundHalfEven_bounds num pos
  have den_pos : (0 : ℚ) < den := by exact_mod_cast pos
  have up : (2 * num : ℚ) ≤ 2 * (roundHalfEven num den * den) + den := by exact_mod_cast up
  have down : 2 * (roundHalfEven num den * den : ℚ) ≤ 2 * num + den := by exact_mod_cast down
  have quotient : (num / den : ℚ) * den = num := div_mul_cancel₀ _ den_pos.ne'
  rw [abs_le]
  constructor
  · refine le_of_mul_le_mul_right ?_ den_pos
    linarith
  · refine le_of_mul_le_mul_right ?_ den_pos
    linarith

/-- Rounding to 24 bits moves a number of units by at most half a unit, or by one part in
`2 ^ 24`. -/
theorem roundUnits_near (num : Nat) {den : Nat} (pos : 0 < den) :
    |(roundUnits num den : ℚ) - num / den| ≤ max (1 / 2 : ℚ) ((num : ℚ) / den / twoPow 24) := by
  have cases_of_step := unitStep_cases (num / den)
  have near := roundHalfEven_near num (Nat.mul_pos pos (unitStep_pos (num / den)))
  have step_pos : (0 : ℚ) < unitStep (num / den) := by exact_mod_cast unitStep_pos _
  rw [roundUnits]
  generalize unitStep (num / den) = step at *
  have scaled : ((roundHalfEven num (den * step) * step : Nat) : ℚ) - num / den =
      (roundHalfEven num (den * step) - num / (den * step : Nat)) * step := by
    push_cast
    field_simp
  have half : |((roundHalfEven num (den * step) * step : Nat) : ℚ) - num / den| ≤ step / 2 := by
    rw [scaled, abs_mul, abs_of_pos step_pos]
    linarith [mul_le_mul_of_nonneg_right near step_pos.le]
  rcases cases_of_step with one | wide
  · subst one
    exact le_max_of_le_left (half.trans (by norm_num))
  · have floor : ((num / den : Nat) : ℚ) ≤ num / den := Nat.cast_div_le
    have wide : (step * twoPow 23 : ℚ) ≤ (num / den : Nat) := by exact_mod_cast wide
    have part : (step / 2 : ℚ) ≤ num / den / twoPow 24 := by
      rw [le_div_iff₀ (cast_twoPow_pos 24), cast_twoPow_add 23 1, show (twoPow 1 : ℚ) = 2 from rfl]
      linarith
    exact le_max_of_le_right (half.trans part)

/-- The most that rounding moves a number: one part in `2 ^ 24`, or half of the smallest unit. -/
def slack (x : ℚ) : ℚ := max (|x| / twoPow 24) (1 / twoPow 150)

namespace Binary32

/-- The number that a finite one is. -/
def toRat : Binary32 → ℚ
  | .finite negative units _ => signedUnits negative units / twoPow 149
  | _ => 0

def sign (negative : Bool) : ℚ := if negative then -1 else 1

theorem abs_sign (negative : Bool) : |sign negative| = 1 := by cases negative <;> simp [sign]

/-- A quotient of units with a sign. -/
def ratio (negative : Bool) (num den : Nat) : ℚ := sign negative * ((num : ℚ) / den / twoPow 149)

/-- The second number is the first one, rounded once. -/
def Rounds (x : ℚ) (r : Binary32) : Prop :=
  ∃ negative num den, 0 < den ∧ r = ofUnits negative num den ∧ x = ratio negative num den

theorem toRat_finite (negative : Bool) (units : Nat) (held : Held units) :
    (finite negative units held).toRat = ratio negative units 1 := by
  cases negative <;> simp [toRat, signedUnits, ratio, sign, neg_div]

theorem eq_finite_of_isFinite {negative : Bool} {num den : Nat}
    (finite : (ofUnits negative num den).isFinite = true) :
    ∃ held, ofUnits negative num den = .finite negative (roundUnits num den) held := by
  unfold ofUnits at finite ⊢
  split
  · rename_i short
    exact ⟨⟨short, roundUnits_dvd num den⟩, rfl⟩
  · rename_i long
    rw [dif_neg long] at finite
    cases finite

theorem toRat_ofUnits {negative : Bool} {num den : Nat}
    (finite : (ofUnits negative num den).isFinite = true) :
    (ofUnits negative num den).toRat = ratio negative (roundUnits num den) 1 := by
  obtain ⟨held, same⟩ := eq_finite_of_isFinite finite
  rw [same, toRat_finite]

theorem ratio_nonneg (num den : Nat) : 0 ≤ ratio false num den := by
  have units := cast_twoPow_pos 149
  simp only [ratio, sign, Bool.false_eq_true, if_false, one_mul]
  positivity

theorem ratio_true (num den : Nat) : ratio true num den = -ratio false num den := by
  simp [ratio, sign]

/-- Quotients of units are ordered as their cross products are. -/
theorem ratio_le_ratio {num den num' den' : Nat} (pos : 0 < den) (pos' : 0 < den') :
    ratio false num den ≤ ratio false num' den' ↔ num * den' ≤ num' * den := by
  have pos : (0 : ℚ) < den := by exact_mod_cast pos
  have pos' : (0 : ℚ) < den' := by exact_mod_cast pos'
  simp only [ratio, sign, one_mul, Bool.false_eq_true, if_false]
  rw [div_le_div_iff_of_pos_right (cast_twoPow_pos 149), div_le_div_iff₀ pos pos']
  exact_mod_cast Iff.rfl

theorem roundUnits_ratio_mono {num den num' den' : Nat} (pos : 0 < den) (pos' : 0 < den')
    (le : ratio false num den ≤ ratio false num' den') :
    ratio false (roundUnits num den) 1 ≤ ratio false (roundUnits num' den') 1 := by
  rw [ratio_le_ratio Nat.one_pos Nat.one_pos, Nat.mul_one, Nat.mul_one]
  exact roundUnits_mono pos pos' ((ratio_le_ratio pos pos').1 le)

theorem roundUnits_ratio_le_zero {num den : Nat} (pos : 0 < den) (le : ratio false num den ≤ 0) :
    ratio false (roundUnits num den) 1 ≤ 0 := by
  have zero : ratio false 0 1 = 0 := by simp [ratio]
  rw [← zero] at le
  exact (roundUnits_ratio_mono pos Nat.one_pos le).trans_eq zero

namespace Rounds

variable {x y : ℚ} {r t : Binary32}

/-- Rounding moves a number by its slack at most. -/
theorem near (rounds : Rounds x r) (finite : r.isFinite = true) : |r.toRat - x| ≤ slack x := by
  obtain ⟨negative, num, den, pos, rfl, rfl⟩ := rounds
  have units := cast_twoPow_pos 149
  have moved := roundUnits_near num pos
  have size : |ratio negative num den| = (num : ℚ) / den / twoPow 149 := by
    rw [ratio, abs_mul, abs_sign, one_mul]
    exact abs_of_nonneg (by positivity)
  have distance : (ofUnits negative num den).toRat - ratio negative num den =
      sign negative * (((roundUnits num den : ℚ) - num / den) / twoPow 149) := by
    rw [toRat_ofUnits finite, ratio, ratio]
    push_cast
    ring
  have half : (1 / twoPow 150 : ℚ) = 1 / 2 / twoPow 149 := by
    rw [cast_twoPow_add 149 1, show (twoPow 1 : ℚ) = 2 from rfl, div_div, mul_comm]
  have most : slack (ratio negative num den) =
      Max.max (1 / 2 : ℚ) ((num : ℚ) / den / twoPow 24) / twoPow 149 := by
    rw [slack, size, half, div_right_comm, max_div_div_right units.le, max_comm]
  rw [distance, abs_mul, abs_sign, one_mul, abs_div, abs_of_pos units, most]
  exact div_le_div_of_nonneg_right moved units.le

/-- Rounding keeps the order of numbers. -/
theorem mono (rounds : Rounds x r) (rounds' : Rounds y t) (le : x ≤ y)
    (finite : r.isFinite = true) (finite' : t.isFinite = true) : r.toRat ≤ t.toRat := by
  obtain ⟨negative, num, den, pos, rfl, rfl⟩ := rounds
  obtain ⟨negative', num', den', pos', rfl, rfl⟩ := rounds'
  rw [toRat_ofUnits finite, toRat_ofUnits finite']
  cases negative <;> cases negative'
  case false.false => exact roundUnits_ratio_mono pos pos' le
  case true.true =>
    rw [ratio_true, ratio_true, neg_le_neg_iff] at *
    exact roundUnits_ratio_mono pos' pos le
  case true.false =>
    rw [ratio_true]
    linarith [ratio_nonneg (roundUnits num den) 1, ratio_nonneg (roundUnits num' den') 1]
  case false.true =>
    rw [ratio_true] at le ⊢
    have above := ratio_nonneg num den
    have above' := ratio_nonneg num' den'
    have first := roundUnits_ratio_le_zero pos (by linarith)
    have second := roundUnits_ratio_le_zero pos' (by linarith)
    linarith

end Rounds

theorem toRat_of_isInt {x : Binary32} {i : Int} (whole : x.IsInt i) :
    x.toRat = i ∧ x.isFinite = true := by
  obtain ⟨negative, units, held, rfl, value⟩ := whole
  refine ⟨?_, rfl⟩
  rw [toRat, value, Int.cast_mul, Int.cast_natCast]
  exact mul_div_cancel_right₀ _ (cast_twoPow_pos 149).ne'

theorem toRat_ofNat {n : Nat} (short : n < twoPow 24) :
    (ofNat n).toRat = n ∧ (ofNat n).isFinite = true :=
  toRat_of_isInt (isInt_ofInt short)

theorem lt_iff {a b : Binary32} (finite : a.isFinite = true) (finite' : b.isFinite = true) :
    a.lt b = true ↔ a.toRat < b.toRat := by
  cases a <;> cases b <;> simp only [isFinite, Bool.false_eq_true] at finite finite'
  simp only [lt, toRat, decide_eq_true_eq, div_lt_div_iff_of_pos_right (cast_twoPow_pos 149),
    Int.cast_lt]

theorem eq_finite {x : Binary32} (finite : x.isFinite = true) :
    ∃ negative units held, x = .finite negative units held := by
  cases x with
  | nan => cases finite
  | infinite negative => cases finite
  | finite negative units held => exact ⟨negative, units, held, rfl⟩

/-- Only finite numbers have a finite product. -/
theorem isFinite_of_mul {a b : Binary32} (finite : (a * b).isFinite = true) :
    a.isFinite = true ∧ b.isFinite = true := by
  change (mul a b).isFinite = true at finite
  cases a <;> cases b <;> simp only [mul] at finite
  case finite.finite => exact ⟨rfl, rfl⟩
  case infinite.finite => split at finite <;> cases finite
  case finite.infinite => split at finite <;> cases finite
  all_goals cases finite

theorem isFinite_of_div {a b : Binary32} (finite : (a / b).isFinite = true) :
    a.isFinite = true := by
  change (div a b).isFinite = true at finite
  cases a <;> cases b <;> first | rfl | cases finite

theorem sign_xor (s t : Bool) : sign (s ^^ t) = sign s * sign t := by
  cases s <;> cases t <;> simp [sign]

theorem rounds_mul {a b : Binary32} (finite : a.isFinite = true) (finite' : b.isFinite = true) :
    Rounds (a.toRat * b.toRat) (a * b) := by
  obtain ⟨s, u, held, rfl⟩ := eq_finite finite
  obtain ⟨t, v, held', rfl⟩ := eq_finite finite'
  refine ⟨s ^^ t, u * v, twoPow 149, twoPow_pos 149, rfl, ?_⟩
  rw [toRat_finite, toRat_finite]
  simp only [ratio, sign_xor]
  push_cast
  field_simp

theorem rounds_div {a b : Binary32} (finite : a.isFinite = true) (finite' : b.isFinite = true)
    (some : b.toRat ≠ 0) : Rounds (a.toRat / b.toRat) (a / b) := by
  obtain ⟨s, u, held, rfl⟩ := eq_finite finite
  obtain ⟨t, v, held', rfl⟩ := eq_finite finite'
  rw [toRat_finite] at some
  have positive : v ≠ 0 := by
    rintro rfl
    exact some (by simp [ratio])
  have quotient : Binary32.finite s u held / Binary32.finite t v held' =
      ofUnits (s ^^ t) (u * twoPow 149) v :=
    if_neg positive
  refine ⟨s ^^ t, u * twoPow 149, v, Nat.pos_of_ne_zero positive, quotient, ?_⟩
  rw [toRat_finite, toRat_finite]
  simp only [ratio, sign_xor]
  have v_ne : (v : ℚ) ≠ 0 := by exact_mod_cast positive
  have units := (cast_twoPow_pos 149).ne'
  cases s <;> cases t <;> simp only [sign] <;> push_cast <;> field_simp

/-- A difference is that of the numbers of units, rounded once. -/
theorem exists_sub_eq {a b : Binary32} (finite : a.isFinite = true) (finite' : b.isFinite = true) :
    ∃ (negative : Bool) (units : Int), a - b = ofUnits negative units.natAbs 1 ∧
      a.toRat - b.toRat = units / twoPow 149 ∧ (units ≠ 0 → (negative = true ↔ units < 0)) := by
  obtain ⟨s, u, held, rfl⟩ := eq_finite finite
  obtain ⟨t, v, held', rfl⟩ := eq_finite finite'
  have opposite : signedUnits (!t) v = -signedUnits t v := by cases t <;> simp [signedUnits]
  refine ⟨_, signedUnits s u + signedUnits (!t) v, rfl, ?_, ?_⟩
  · rw [opposite, toRat, toRat]
    push_cast
    ring
  · intro some
    rw [if_neg some, decide_eq_true_iff]

theorem roundUnits_pos {num : Nat} (pos : 0 < num) : 0 < roundUnits num 1 :=
  roundUnits_mono_left pos 1

/-- Where there are units, rounding leaves some, with their sign. -/
theorem sign_ofUnits {num : Nat} (negative : Bool) (pos : 0 < num) :
    (ofUnits negative num 1).lt zero = negative ∧ zero.lt (ofUnits negative num 1) = !negative := by
  have some := roundUnits_pos pos
  unfold ofUnits
  split
  · cases negative <;> simp [lt, zero, signedUnits, some]
  · exact ⟨rfl, rfl⟩

/-- A difference has the sign of the exact one. None is so small that it is rounded away. -/
theorem sign_sub {a b : Binary32} (finite : a.isFinite = true) (finite' : b.isFinite = true) :
    ((a - b).lt zero = true ↔ a.toRat < b.toRat) ∧
      (zero.lt (a - b) = true ↔ b.toRat < a.toRat) := by
  obtain ⟨negative, units, difference, exact_difference, signed⟩ := exists_sub_eq finite finite'
  have below : a.toRat < b.toRat ↔ units < 0 := by
    rw [← sub_neg, exact_difference, div_lt_iff₀ (cast_twoPow_pos 149), zero_mul]
    exact Int.cast_lt_zero
  have above : b.toRat < a.toRat ↔ 0 < units := by
    rw [← sub_pos, exact_difference, lt_div_iff₀ (cast_twoPow_pos 149), zero_mul]
    exact Int.cast_pos
  rw [difference, below, above]
  by_cases none : units = 0
  · subst none
    cases negative <;> decide
  · obtain ⟨low, high⟩ := sign_ofUnits negative (Int.natAbs_pos.2 none)
    have negated : negative = false ↔ 0 < units := by
      rw [← Bool.not_eq_true, signed none]
      omega
    rw [low, high, signed none, Bool.not_eq_true', negated]
    exact ⟨Iff.rfl, Iff.rfl⟩

/-- The order of any two terms is the sign of their difference, infinite ones and NaN included. -/
theorem lt_sub_zero (a b : Binary32) : (a - b).lt zero = a.lt b ∧ zero.lt (a - b) = b.lt a := by
  by_cases both : a.isFinite = true ∧ b.isFinite = true
  · obtain ⟨finite, finite'⟩ := both
    obtain ⟨below, above⟩ := sign_sub finite finite'
    refine ⟨Bool.eq_iff_iff.2 ?_, Bool.eq_iff_iff.2 ?_⟩
    · rw [below, lt_iff finite finite']
    · rw [above, lt_iff finite' finite]
  · cases a with
    | nan => cases b <;> exact ⟨rfl, rfl⟩
    | infinite s => cases b with
      | nan => exact ⟨rfl, rfl⟩
      | infinite t => cases s <;> cases t <;> exact ⟨rfl, rfl⟩
      | finite t v held => cases s <;> exact ⟨rfl, rfl⟩
    | finite s u held => cases b with
      | nan => exact ⟨rfl, rfl⟩
      | infinite t => cases t <;> exact ⟨rfl, rfl⟩
      | finite t v held' => exact absurd ⟨rfl, rfl⟩ both

end Binary32
end SizedFace
