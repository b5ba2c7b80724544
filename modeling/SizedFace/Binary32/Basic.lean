import SizedFace.Power

namespace SizedFace

/-- The quotient rounded to the nearest whole number, a half to the even neighbour. -/
def roundHalfEven (num den : Nat) : Nat :=
  if 2 * (num % den) < den then num / den
  else if den < 2 * (num % den) then num / den + 1
  else num / den + num / den % 2

theorem roundHalfEven_le (num den : Nat) : roundHalfEven num den ≤ num / den + 1 := by
  unfold roundHalfEven
  split
  · omega
  · split <;> omega

/-- The distance between neighbours of a number of units: 24 significant bits are kept. -/
def unitStep (units : Nat) : Nat := twoPow (units.log2 - 23)

/-- The quotient rounded to the nearest number of units with at most 24 significant bits. -/
def roundUnits (num den : Nat) : Nat :=
  roundHalfEven num (den * unitStep (num / den)) * unitStep (num / den)

/-- A number of units is held when it has at most 277 bits and is a multiple of its own step. -/
def Held (units : Nat) : Prop := units.log2 < 277 ∧ unitStep units ∣ units

instance (units : Nat) : Decidable (Held units) := inferInstanceAs (Decidable (_ ∧ _))

theorem lt_twoPow_log2_sub_add (n : Nat) : n < twoPow (n.log2 - 23 + 24) :=
  Nat.lt_of_lt_of_le (lt_twoPow_log2 n) (twoPow_le (by omega))

theorem roundHalfEven_step_le (num den : Nat) :
    roundHalfEven num (den * unitStep (num / den)) ≤ twoPow 24 := by
  have hq : num / (den * unitStep (num / den)) < twoPow 24 := by
    rw [← Nat.div_div_eq_div_mul]
    apply Nat.div_lt_of_lt_mul
    rw [unitStep, ← twoPow_add]
    exact lt_twoPow_log2_sub_add _
  have := roundHalfEven_le num (den * unitStep (num / den))
  omega

/-- What rounding gives is a multiple of its own step, also when it moves up to the next power of
two. -/
theorem roundUnits_dvd (num den : Nat) : unitStep (roundUnits num den) ∣ roundUnits num den := by
  have hk := roundHalfEven_step_le num den
  unfold roundUnits
  generalize roundHalfEven num (den * unitStep (num / den)) = k at hk
  rw [show unitStep (num / den) = twoPow ((num / den).log2 - 23) from rfl]
  generalize (num / den).log2 - 23 = s
  rcases Nat.lt_or_eq_of_le hk with hlt | rfl
  · have hlog : (k * twoPow s).log2 ≤ s + 23 := by
      apply log2_le_of_lt_twoPow
      rw [show s + 23 + 1 = 24 + s by omega, twoPow_add]
      exact Nat.mul_lt_mul_of_pos_right hlt (twoPow_pos s)
    exact Nat.dvd_trans (twoPow_dvd (by omega)) (Nat.dvd_mul_left _ _)
  · rw [← twoPow_add, unitStep, log2_twoPow]
    exact twoPow_dvd (by omega)

/-- A binary32 number. A finite one is `units` times `2 ^ -149`. -/
inductive Binary32 where
  | nan
  | infinite (negative : Bool)
  | finite (negative : Bool) (units : Nat) (held : Held units)
  deriving DecidableEq

namespace Binary32

/-- The number nearest to `num / den` units; beyond the largest finite number it is infinite. -/
def ofUnits (negative : Bool) (num den : Nat) : Binary32 :=
  if h : (roundUnits num den).log2 < 277 then
    .finite negative (roundUnits num den) ⟨h, roundUnits_dvd num den⟩
  else .infinite negative

def ofRatio (negative : Bool) (num den : Nat) : Binary32 :=
  ofUnits negative (num * twoPow 149) den

def ofInt (i : Int) : Binary32 := ofRatio (i < 0) i.natAbs 1

def ofNat (n : Nat) : Binary32 := ofInt n

def zero : Binary32 := .finite false 0 (by decide)

instance : Inhabited Binary32 := ⟨zero⟩

/-- A number counted in parts of `2 ^ bits`, such as a fixed-point one. -/
def ofFixed (i : Int) (bits : Nat) : Binary32 := ofRatio (i < 0) i.natAbs (twoPow bits)

def isFinite : Binary32 → Bool
  | .finite .. => true
  | _ => false

/-- Units with their sign; it orders the finite numbers. -/
def signedUnits (negative : Bool) (units : Nat) : Int := if negative then -units else units

/-- Order of numbers; nothing is below or above NaN, and the two zeros are equal. -/
def lt : Binary32 → Binary32 → Bool
  | .nan, _ | _, .nan => false
  | .infinite s, .infinite t => s && !t
  | .infinite s, .finite .. => s
  | .finite .., .infinite t => !t
  | .finite s u _, .finite t v _ => signedUnits s u < signedUnits t v

/-- Equality of numbers: NaN differs from itself, and the two zeros are equal. -/
def same : Binary32 → Binary32 → Bool
  | .nan, _ | _, .nan => false
  | .infinite s, .infinite t => s == t
  | .finite s u _, .finite t v _ => signedUnits s u == signedUnits t v
  | _, _ => false

def neg : Binary32 → Binary32
  | .nan => .nan
  | .infinite s => .infinite !s
  | .finite s u h => .finite (!s) u h

/-- The exact sum, rounded once. An exact zero is negative only when both terms are. -/
def add : Binary32 → Binary32 → Binary32
  | .nan, _ | _, .nan => .nan
  | .infinite s, .infinite t => if s = t then .infinite s else .nan
  | .infinite s, .finite .. => .infinite s
  | .finite .., .infinite t => .infinite t
  | .finite s u _, .finite t v _ =>
    let sum := signedUnits s u + signedUnits t v
    ofUnits (if sum = 0 then s && t else sum < 0) sum.natAbs 1

def sub (a b : Binary32) : Binary32 := add a b.neg

def mul : Binary32 → Binary32 → Binary32
  | .nan, _ | _, .nan => .nan
  | .infinite s, .infinite t => .infinite (s ^^ t)
  | .infinite s, .finite t v _ => if v = 0 then .nan else .infinite (s ^^ t)
  | .finite s u _, .infinite t => if u = 0 then .nan else .infinite (s ^^ t)
  | .finite s u _, .finite t v _ => ofUnits (s ^^ t) (u * v) (twoPow 149)

def div : Binary32 → Binary32 → Binary32
  | .nan, _ | _, .nan => .nan
  | .infinite _, .infinite _ => .nan
  | .infinite s, .finite t _ _ => .infinite (s ^^ t)
  | .finite s _ _, .infinite t => .finite (s ^^ t) 0 (by decide)
  | .finite s u _, .finite t v _ =>
    if v = 0 then if u = 0 then .nan else .infinite (s ^^ t)
    else ofUnits (s ^^ t) (u * twoPow 149) v

/-- The smaller of two numbers; a NaN gives way to the other. -/
def min (a b : Binary32) : Binary32 :=
  match a, b with
  | .nan, b => b
  | a, .nan => a
  | a, b => if b.lt a then b else a

def max (a b : Binary32) : Binary32 :=
  match a, b with
  | .nan, b => b
  | a, .nan => a
  | a, b => if a.lt b then b else a

instance : Neg Binary32 := ⟨neg⟩
instance : Add Binary32 := ⟨add⟩
instance : Sub Binary32 := ⟨sub⟩
instance : Mul Binary32 := ⟨mul⟩
instance : Div Binary32 := ⟨div⟩

end Binary32
end SizedFace
