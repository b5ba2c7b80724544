namespace SizedFace

def twoPow (k : Nat) : Nat := Nat.pow 2 k

def tenPow (k : Nat) : Nat := Nat.pow 10 k

theorem twoPow_pos (k : Nat) : 0 < twoPow k := Nat.two_pow_pos k

theorem twoPow_add (a b : Nat) : twoPow (a + b) = twoPow a * twoPow b := Nat.pow_add 2 a b

theorem twoPow_le {a b : Nat} (h : a ≤ b) : twoPow a ≤ twoPow b :=
  Nat.pow_le_pow_right (by decide) h

theorem twoPow_dvd {a b : Nat} (h : a ≤ b) : twoPow a ∣ twoPow b := Nat.pow_dvd_pow 2 h

theorem log2_twoPow (k : Nat) : (twoPow k).log2 = k := Nat.log2_two_pow

theorem lt_twoPow_log2 (n : Nat) : n < twoPow (n.log2 + 1) := Nat.lt_log2_self

theorem log2_le_of_lt_twoPow {n k : Nat} (h : n < twoPow (k + 1)) : n.log2 ≤ k := by
  by_cases hn : n = 0
  · subst hn
    simp [Nat.log2_zero]
  · have := (Nat.log2_lt hn).2 h
    omega

end SizedFace
