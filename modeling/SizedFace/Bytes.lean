import SizedFace.Power

namespace SizedFace

/-- `stored`, followed by as many zero bytes as `zeros` says. -/
structure Bytes where
  stored : Array UInt8
  zeros : Nat := 0
  deriving DecidableEq, Inhabited

namespace Bytes

def ofList (bytes : List UInt8) : Bytes := ⟨bytes.toArray, 0⟩

def blank (size : Nat) : Bytes := ⟨#[], size⟩

def empty : Bytes := ⟨#[], 0⟩

def size (b : Bytes) : Nat := b.stored.size + b.zeros

def get? (b : Bytes) (i : Nat) : Option UInt8 :=
  match b.stored[i]? with
  | some x => some x
  | none => if i < b.size then some 0 else none

def toList (b : Bytes) : List UInt8 := b.stored.toList ++ List.replicate b.zeros 0

/-- `length` bytes from `start` on. -/
def slice (b : Bytes) (start length : Nat) : Bytes :=
  let stored := b.stored.extract start (start + length)
  ⟨stored, length - stored.size⟩

def append (b more : Bytes) : Bytes :=
  ⟨b.stored ++ Array.replicate b.zeros 0 ++ more.stored, more.zeros⟩

def slice? (b : Bytes) (start length : Nat) : Option Bytes :=
  if start + length ≤ b.size then some (b.slice start length) else none

def drop? (b : Bytes) (start : Nat) : Option Bytes :=
  if start ≤ b.size then some (b.slice start (b.size - start)) else none

def u8? (b : Bytes) (i : Nat) : Option Nat := (b.get? i).map UInt8.toNat

/-- The big-endian number in `width` bytes at a place. -/
def number? (b : Bytes) (i : Nat) : Nat → Option Nat
  | 0 => some 0
  | width + 1 => do
    let high ← b.number? i width
    let low ← b.u8? (i + width)
    pure (high * 256 + low)

def u16? (b : Bytes) (i : Nat) : Option Nat := b.number? i 2

def u32? (b : Bytes) (i : Nat) : Option Nat := b.number? i 4

/-- A number of `bits` bits read as two's complement. -/
def signed (bits n : Nat) : Int := if n < twoPow (bits - 1) then n else (n : Int) - twoPow bits

def i8? (b : Bytes) (i : Nat) : Option Int := (b.u8? i).map (signed 8)

def i16? (b : Bytes) (i : Nat) : Option Int := (b.u16? i).map (signed 16)

def i32? (b : Bytes) (i : Nat) : Option Int := (b.u32? i).map (signed 32)

/-- `count` numbers of `width` bytes each from a place on; all of them lie inside the run. -/
def numbers? (b : Bytes) (i width count : Nat) : Option (Array Nat) :=
  if i + count * width ≤ b.size then
    some ((Array.range count).map fun k => (b.number? (i + k * width) width).getD 0)
  else none

/-- The numbers of two bytes from a place to the end; a lone last byte is left out. -/
def u16sFrom (b : Bytes) (i : Nat) : Array Nat :=
  (b.numbers? i 2 ((b.size - i) / 2)).getD #[]

theorem size_slice (b : Bytes) (start length : Nat) : (b.slice start length).size = length := by
  simp only [slice, size, Array.size_extract]
  omega

theorem slice?_eq_some {b s : Bytes} {start length : Nat} :
    b.slice? start length = some s ↔ start + length ≤ b.size ∧ s = b.slice start length := by
  unfold slice?
  split
  · rename_i h
    simp [h, eq_comm]
  · rename_i h
    simp [h]

theorem get?_eq_none_iff (b : Bytes) (i : Nat) : b.get? i = none ↔ b.size ≤ i := by
  unfold get?
  split
  · rename_i h
    have := (Array.getElem?_eq_some_iff.1 h).1
    simp only [size]
    simp
    omega
  · simp

theorem lt_size_of_get? {b : Bytes} {i : Nat} {byte : UInt8} (read : b.get? i = some byte) :
    i < b.size := by
  apply Nat.lt_of_not_le
  intro past
  rw [(b.get?_eq_none_iff i).2 past] at read
  cases read

theorem get?_slice_of_lt (b : Bytes) {start length i : Nat} (hi : i < length)
    (inside : start + i < b.size) : (b.slice start length).get? i = b.get? (start + i) := by
  have hs := size_slice b start length
  unfold get?
  rw [hs]
  simp only [slice, Array.getElem?_extract]
  by_cases h : start + i < b.stored.size
  · have : i < min (start + length) b.stored.size - start := by omega
    simp [this, Array.getElem?_eq_getElem h]
  · have : ¬ i < min (start + length) b.stored.size - start := by omega
    have h2 : b.stored[start + i]? = none := by simp; omega
    simp only [this, if_false, h2, hi, if_true]
    rw [if_pos inside]

theorem get?_slice (b : Bytes) {start length i : Nat} (hi : i < length)
    (hin : start + length ≤ b.size) : (b.slice start length).get? i = b.get? (start + i) :=
  b.get?_slice_of_lt hi (by omega)

theorem get?_append_left {b : Bytes} {i : Nat} (below : i < b.size) (more : Bytes) :
    (b.append more).get? i = b.get? i := by
  have inside : i < b.stored.size + b.zeros := below
  have whole : i < (b.append more).size := by
    simp only [append, size, Array.size_append, Array.size_replicate]
    omega
  unfold get?
  rw [if_pos below, if_pos whole]
  simp only [append, Array.getElem?_append, Array.size_append, Array.size_replicate, if_pos inside]
  by_cases stored : i < b.stored.size
  · rw [if_pos stored]
  · have blank : i - b.stored.size < b.zeros := by omega
    have none : b.stored[i]? = none := by simp; omega
    rw [if_neg stored, none, Array.getElem?_replicate, if_pos blank]

theorem number?_lt {b : Bytes} {i width n : Nat} (read : b.number? i width = some n) :
    n < twoPow (8 * width) := by
  induction width generalizing n with
  | zero =>
    obtain rfl := Option.some.inj read
    exact Nat.one_pos
  | succ width ih =>
    obtain ⟨high, above, read⟩ := Option.bind_eq_some_iff.1 read
    obtain ⟨low, below, read⟩ := Option.bind_eq_some_iff.1 read
    obtain ⟨byte, _, rfl⟩ := Option.map_eq_some_iff.1 below
    obtain rfl := Option.some.inj read
    have := ih above
    have := byte.toNat_lt
    have wider : twoPow (8 * (width + 1)) = twoPow (8 * width) * 0x100 := twoPow_add (8 * width) 8
    rw [wider]
    omega

theorem number?_congr {a b : Bytes} {i j width : Nat}
    (same : ∀ k < width, a.get? (i + k) = b.get? (j + k)) :
    a.number? i width = b.number? j width := by
  induction width with
  | zero => rfl
  | succ width ih =>
    have high := ih fun k below => same k (by omega)
    have low := same width (by omega)
    simp only [number?, u8?, high, low]

theorem exists_number? {b : Bytes} {i width : Nat} (inside : i + width ≤ b.size) :
    ∃ n, b.number? i width = some n := by
  induction width with
  | zero => exact ⟨0, rfl⟩
  | succ width ih =>
    obtain ⟨high, above⟩ := ih (by omega)
    cases below : b.get? (i + width) with
    | none =>
      have := (get?_eq_none_iff b _).1 below
      omega
    | some byte => exact ⟨high * 256 + byte.toNat, by simp [number?, u8?, above, below]⟩

/-- A row of numbers is read as a whole or not at all. -/
theorem numbers?_eq_some {b : Bytes} {i width count : Nat} {row : Array Nat} :
    b.numbers? i width count = some row ↔
      i + count * width ≤ b.size ∧ row.size = count ∧
        ∀ k < count, row[k]? = b.number? (i + k * width) width := by
  have exact_number : ∀ k < count, i + count * width ≤ b.size →
      some ((b.number? (i + k * width) width).getD 0) = b.number? (i + k * width) width := by
    intro k below inside
    have : (k + 1) * width ≤ count * width := Nat.mul_le_mul_right width below
    rw [Nat.succ_mul] at this
    obtain ⟨n, read⟩ : ∃ n, b.number? (i + k * width) width = some n :=
      exists_number? (by omega)
    rw [read, Option.getD_some]
  unfold numbers?
  constructor
  · intro read
    split at read
    · rename_i inside
      obtain rfl := Option.some.inj read
      refine ⟨inside, by simp, fun k below => ?_⟩
      rw [← exact_number k below inside]
      simp [below]
    · cases read
  · intro held
    obtain ⟨inside, rfl, numbers⟩ := held
    rw [if_pos inside]
    congr 1
    apply Array.ext_getElem?
    intro k
    by_cases below : k < row.size
    · rw [numbers k below, ← exact_number k below inside]
      simp [below]
    · simp [below]

theorem getD_numbers?_lt {b : Bytes} {i width count : Nat} {row : Array Nat}
    (read : b.numbers? i width count = some row) (k : Nat) : row.getD k 0 < twoPow (8 * width) := by
  have positive := twoPow_pos (8 * width)
  unfold numbers? at read
  split at read
  · obtain rfl := Option.some.inj read
    rw [Array.getD_eq_getD_getElem?, Array.getElem?_map]
    cases (Array.range count)[k]? with
    | none => exact positive
    | some k =>
      simp only [Option.map_some, Option.getD_some]
      cases number : b.number? (i + k * width) width with
      | none => exact positive
      | some n => exact number?_lt number
  · cases read

end Bytes
end SizedFace
