import SizedFace.Binary32.Exact
import SizedFace.Binary32.Rounding

namespace SizedFace

theorem Held.lt_twoPow {units : Nat} (held : Held units) : units < twoPow 277 :=
  Nat.lt_of_lt_of_le (lt_twoPow_log2 units) (twoPow_le held.1)

namespace Binary32

/-- The place of a number in the order. An infinite one comes past all units that the format
holds. -/
def rank : Binary32 → Int
  | .nan => 0
  | .infinite negative => signedUnits negative (twoPow 277)
  | .finite negative units _ => signedUnits negative units

/-- A number is below another one or equal to it, which NaN never is. -/
def le (a b : Binary32) : Bool := a.lt b || a.same b

theorem natAbs_signedUnits (negative : Bool) (units : Nat) :
    (signedUnits negative units).natAbs = units := by
  cases negative <;> simp [signedUnits]

theorem natAbs_signedUnits_lt (negative : Bool) {units : Nat} (held : Held units) :
    (signedUnits negative units).natAbs < twoPow 277 := by
  rw [natAbs_signedUnits]
  exact held.lt_twoPow

variable {a b : Binary32}

theorem lt_iff_rank (number : a ≠ .nan) (number' : b ≠ .nan) :
    a.lt b = true ↔ a.rank < b.rank := by
  have pos := twoPow_pos 277
  cases a with
  | nan => exact absurd rfl number
  | infinite s => cases b with
    | nan => exact absurd rfl number'
    | infinite t =>
      simp only [lt, rank]
      cases s <;> cases t <;> simp [signedUnits]
      omega
    | finite t v held =>
      have small := natAbs_signedUnits_lt t held
      simp only [lt, rank]
      cases s <;> simp [signedUnits] at small ⊢ <;> omega
  | finite s u held => cases b with
    | nan => exact absurd rfl number'
    | infinite t =>
      have small := natAbs_signedUnits_lt s held
      simp only [lt, rank]
      cases t <;> simp [signedUnits] at small ⊢ <;> omega
    | finite t v held' => simp [lt, rank]

/-- Of two numbers, one is below the other or they are equal. -/
theorem same_eq_not_lt (number : a ≠ .nan) (number' : b ≠ .nan) :
    a.same b = (!a.lt b && !b.lt a) := by
  cases a with
  | nan => exact absurd rfl number
  | infinite s => cases b with
    | nan => exact absurd rfl number'
    | infinite t => cases s <;> cases t <;> rfl
    | finite t v held => cases s <;> rfl
  | finite s u held => cases b with
    | nan => exact absurd rfl number'
    | infinite t => cases t <;> rfl
    | finite t v held' =>
      rw [same, lt, lt, Bool.eq_iff_iff]
      simp only [beq_iff_eq, Bool.and_eq_true, Bool.not_eq_true', decide_eq_false_iff_not]
      omega

theorem same_iff_rank (number : a ≠ .nan) (number' : b ≠ .nan) :
    a.same b = true ↔ a.rank = b.rank := by
  rw [same_eq_not_lt number number', Bool.and_eq_true, Bool.not_eq_true', Bool.not_eq_true',
    ← Bool.not_eq_true, ← Bool.not_eq_true, lt_iff_rank number number', lt_iff_rank number' number]
  omega

theorem le_iff_rank (number : a ≠ .nan) (number' : b ≠ .nan) :
    a.le b = true ↔ a.rank ≤ b.rank := by
  rw [le, Bool.or_eq_true, lt_iff_rank number number', same_iff_rank number number']
  omega

theorem min_eq (number : a ≠ .nan) (number' : b ≠ .nan) : a.min b = if b.lt a then b else a := by
  cases a <;> cases b <;> first | rfl | contradiction

theorem max_eq (number : a ≠ .nan) (number' : b ≠ .nan) : a.max b = if a.lt b then b else a := by
  cases a <;> cases b <;> first | rfl | contradiction

theorem min_eq_or (number : a ≠ .nan) (number' : b ≠ .nan) : a.min b = a ∨ a.min b = b := by
  rw [min_eq number number']
  split
  · exact .inr rfl
  · exact .inl rfl

theorem max_eq_or (number : a ≠ .nan) (number' : b ≠ .nan) : a.max b = a ∨ a.max b = b := by
  rw [max_eq number number']
  split
  · exact .inr rfl
  · exact .inl rfl

theorem rank_min (number : a ≠ .nan) (number' : b ≠ .nan) :
    (a.min b).rank = Min.min a.rank b.rank := by
  simp only [min_eq number number', lt_iff_rank number' number]
  split <;> omega

theorem rank_max (number : a ≠ .nan) (number' : b ≠ .nan) :
    (a.max b).rank = Max.max a.rank b.rank := by
  simp only [max_eq number number', lt_iff_rank number number']
  split <;> omega

/-- A number that is neither NaN nor a negative zero. -/
def IsPlain (x : Binary32) : Prop := x ≠ .nan ∧ ∀ held, x ≠ .finite true 0 held

end Binary32
end SizedFace
