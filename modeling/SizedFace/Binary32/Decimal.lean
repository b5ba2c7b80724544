import SizedFace.Binary32.Basic

namespace SizedFace.Binary32

/-- Decimal digits with the place of the point: `0.d₁d₂…` times ten to `exponent`. -/
structure Digits where
  digits : Nat
  count : Nat
  exponent : Int

/-- Four times the numbers of units between which everything rounds to `units`. The gap below a
power of two is half as wide as the gap above it. -/
def readBackRange (units : Nat) : Nat × Nat :=
  let step := unitStep units
  let below := if units = twoPow units.log2 ∧ 23 < units.log2 then step else 2 * step
  (4 * units - below, 4 * units + 2 * step)

/-- Whether `digits` times ten to `exponent` reads back as `units`: the ends of the range do so
exactly when the last of the 24 bits is even. -/
def readsBack (units : Nat) (digits : Nat) (exponent : Int) : Bool :=
  let (low, high) := readBackRange units
  let value := 4 * digits * twoPow 149 * tenPow exponent.toNat
  let scale := tenPow (-exponent).toNat
  if units / unitStep units % 2 = 0 then low * scale ≤ value && value ≤ high * scale
  else low * scale < value && value < high * scale

/-- The least `k` with `units * 2 ^ -149 < 10 ^ k`, searched upward from below the smallest
number. -/
def decimalScale (units : Nat) : Int :=
  let below (k : Int) : Bool := units * tenPow (-k).toNat < twoPow 149 * tenPow k.toNat
  match (List.range 90).find? (fun (n : Nat) => below ((n : Int) - 46)) with
  | some n => (n : Int) - 46
  | none => 44

/-- The nearer of the two neighbours on the grid of `count` digits that read back, an exact tie
going up. -/
def neighbour? (units : Nat) (scale : Int) (count : Nat) : Option Nat :=
  let exponent := scale - count
  let num := units * tenPow (-exponent).toNat
  let den := twoPow 149 * tenPow exponent.toNat
  let down := num / den
  match readsBack units down exponent, readsBack units (down + 1) exponent with
  | false, false => none
  | true, false => some down
  | false, true => some (down + 1)
  | true, true => if 2 * (num % den) < den then some down else some (down + 1)

def exact (units : Nat) : Digits :=
  let digits := units * Nat.pow 5 149
  let count := (toString digits).length
  ⟨digits, count, (count : Int) - 149⟩

/-- The fewest digits that read back as the number of `units`, which is not zero. -/
def shortest (units : Nat) : Digits :=
  let scale := decimalScale units
  let found := (List.range 10).findSome? fun n =>
    (neighbour? units scale (n + 1)).map fun d => (d, n + 1)
  match found with
  | none => exact units
  | some (d, n) =>
    if d = tenPow n then ⟨1, 1, scale + 1⟩ else ⟨d, n, scale⟩

structure Layout where
  /-- The least count of decimals. -/
  decimals : Nat
  /-- Positional text is used from ten to this power on; below it an exponent is written. -/
  least : Option Int
  /-- From ten to this power on an exponent is written. -/
  most : Option Int

/-- Messages write numbers positionally, and whole numbers without a point. -/
def Layout.plain : Layout := ⟨0, none, none⟩

/-- Descriptions keep one decimal, and use an exponent below `1e-4` and from `1e16` on. -/
def Layout.described : Layout := ⟨1, some (-4), some 16⟩

def zeros (n : Nat) : String := String.ofList (List.replicate n '0')

/-- The digits with the point put in its place and at least `decimals` decimals. -/
def Digits.positional (d : Digits) (decimals : Nat) : String :=
  let text := toString d.digits
  let (whole, part) :=
    if d.exponent ≤ 0 then ("0", zeros (-d.exponent).toNat ++ text)
    else if d.count ≤ d.exponent.toNat then (text ++ zeros (d.exponent.toNat - d.count), "")
    else (String.ofList (text.toList.take d.exponent.toNat),
      String.ofList (text.toList.drop d.exponent.toNat))
  let part := part ++ zeros (decimals - part.length)
  if part.isEmpty then whole else whole ++ "." ++ part

/-- One digit before the point, and the power of ten after an `e`. -/
def Digits.scientific (d : Digits) : String :=
  let text := (toString d.digits).toList
  let rest := if text.length ≤ 1 then "" else "." ++ String.ofList (text.drop 1)
  String.ofList (text.take 1) ++ rest ++ "e" ++ toString (d.exponent - 1)

/-- Trailing zeros are no digits of a shortest text. -/
def Digits.render (layout : Layout) (d : Digits) : String :=
  let positional :=
    (match layout.least with | none => true | some k => k < d.exponent) &&
    (match layout.most with | none => true | some k => d.exponent ≤ k)
  if positional then d.positional layout.decimals else d.scientific

def text (layout : Layout) : Binary32 → String
  | .nan => "NaN"
  | .infinite s => (if s then "-" else "") ++ "inf"
  | .finite s u _ => (if s then "-" else "") ++
    if u = 0 then Digits.positional ⟨0, 1, 1⟩ layout.decimals else (shortest u).render layout

end SizedFace.Binary32
