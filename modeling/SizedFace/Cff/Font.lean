import SizedFace.Cff.Table
import SizedFace.Cff.Variation
import SizedFace.Power

namespace SizedFace.Cff

inductive FontSelect where
  /-- One number for each glyph. -/
  | each (numbers : Bytes)
  /-- Ranges by their first glyph, ascending. -/
  | ranges (ranges : List (Nat × Nat))

namespace FontSelect

def read? (bytes : Bytes) : Option FontSelect := do
  match ← bytes.u8? 0 with
  | 0 => pure (.each (← bytes.drop? 1))
  | 3 =>
    let count ← bytes.u16? 1
    if bytes.size < 5 + 3 * count then none
    else
      let words ← bytes.numbers? 3 3 count
      pure (.ranges (words.toList.map fun n => (n / 0x100, n % 0x100)))
  | 4 =>
    let count ← bytes.u32? 1
    if bytes.size < 9 + 6 * count then none
    else
      let words ← bytes.numbers? 5 6 count
      pure (.ranges (words.toList.map fun n => (n / 0x10000, n % 0x10000)))
  | _ => none

/-- The number of the last range that begins at or before the glyph; before the first range, its
number. -/
def number? (select : FontSelect) (glyph : Nat) : Option Nat :=
  match select with
  | .each numbers => numbers.u8? glyph
  | .ranges rows =>
    match (rows.takeWhile fun r => r.1 ≤ glyph).getLast? with
    | some range => some range.2
    | none => rows.head?.map (·.2)

end FontSelect

/-- A matrix and the grid that its numbers are counted on. The last two numbers are an offset. -/
structure Matrix where
  xx : Int
  yx : Int
  xy : Int
  yy : Int
  dx : Int
  dy : Int
  grid : Int
  deriving DecidableEq

/-- A number as a fixed-point one times a power of ten, with no more than five digits before the
point. -/
def scaledWhole (i : Int) : Int × Int :=
  if i ≤ 0x7FFF then (Fixed.ofInt i, 0)
  else
    let n := i.toNat
    let length := (toString n).length
    if 0x7FFF < n / tenPow (length - 5) then (Fixed.div i (tenPow (length - 4)), length - 4)
    else (Fixed.div i (tenPow (length - 5)), length - 5)

def Decimal.scaled (d : Decimal) : Int × Int :=
  let number := d.digits
  if number = 0 then (0, 0)
  else
    let length : Nat := d.part + d.whole
    let exponent : Int := d.exponent + d.whole
    let (value, scale) : Int × Int :=
      if length ≤ 5 then
        if 0x7FFF < number then (Fixed.div number 10, exponent - length + 1)
        else if 0 < exponent then
          let longer := min exponent.toNat 5
          if length < longer then
            let number := number * tenPow (longer - length)
            let exponent := exponent - longer
            if 0x7FFF < number then (Fixed.ofInt (number / 10 : Nat), exponent + 1)
            else (Fixed.ofInt number, exponent)
          else (Fixed.ofInt number, exponent - length)
        else (Fixed.ofInt number, exponent - length)
      else if 0x7FFF < number / tenPow (length - 5) then
        (Fixed.div number (tenPow (length - 4)), exponent - 4)
      else (Fixed.div number (tenPow (length - 5)), exponent - 5)
    (if d.negative then -value else value, scale)

def Operand.scaled : Operand → Int × Int
  | .whole i => scaledWhole i
  | .decimal d => d.scaled
  | .blended => (0, 0)

namespace Matrix

/-- The quotient, a half rounded away from zero. -/
def roundDiv (a : Int) (b : Nat) : Int :=
  let q : Int := (a.natAbs + b / 2) / b
  if a < 0 then -q else q

/-- A matrix from six operands, brought to the largest power of ten among them. Powers that are out
of reach give none. -/
def ofOperands? (operands : List Operand) : Option Matrix :=
  let scaled := (operands.take 6).map Operand.scaled
  let scales := (scaled.filter fun s => s.1 ≠ 0).map Prod.snd
  match scales.max?, scales.min? with
  | some most, some least =>
    if most < -9 ∨ 0 < most ∨ 9 < most - least then none
    else
      match scaled.map fun (value, scale) => roundDiv value (tenPow (most - scale).toNat) with
      | [xx, yx, xy, yy, dx, dy] =>
        some ⟨xx, yx, xy, yy, dx.fdiv 0x10000, dy.fdiv 0x10000, tenPow (-most).toNat⟩
      | _ => none
  | _, _ => none

/-- The matrix over the grid on which its vertical scale is one. -/
def normalized (m : Matrix) : Matrix :=
  let factor : Int := if m.yy ≠ 0 then m.yy.natAbs else m.yx.natAbs
  if factor = Fixed.one then m
  else
    { xx := Fixed.div m.xx factor
      yx := Fixed.div m.yx factor
      xy := Fixed.div m.xy factor
      yy := Fixed.div m.yy factor
      dx := Fixed.div m.dx factor
      dy := Fixed.div m.dy factor
      grid := Fixed.div m.grid factor }

/-- The matrix of a font dictionary after the one of the top dictionary. -/
def concat (top own : Matrix) : Matrix :=
  let scaling : Int := if 1 < top.grid ∧ 1 < own.grid then min top.grid own.grid else 1
  let unit := Fixed.one * scaling
  let term (a b c d : Int) : Int := Fixed.add (Fixed.mulDiv a b unit) (Fixed.mulDiv c d unit)
  { xx := term top.xx own.xx top.xy own.yx
    yx := term top.yx own.xx top.yy own.yx
    xy := term top.xx own.xy top.xy own.yy
    yy := term top.yx own.xy top.yy own.yy
    dx := Fixed.add (term own.dx top.xx own.dy top.xy) top.dx
    dy := Fixed.add (term own.dx top.yx own.dy top.yy) top.dy
    grid := Fixed.mulDiv own.grid top.grid scaling }

end Matrix

structure Font where
  table : Table
  unitsPerEm : Nat
  charstrings : Index
  fontDicts : Index
  fontSelect : Option FontSelect
  privateRange : Nat × Nat
  matrix : Option Matrix
  store : Option VariationStore

namespace Font

def take? (font : Font) (entry : Entry) : Option Font :=
  let rest (offset : Int) : Bytes :=
    if offset < 0 then .empty else (font.table.bytes.drop? offset.toNat).getD .empty
  let row? (offset : Int) : Option Index := Index.read? font.table.countWidth (rest offset)
  match entry with
  | .charstrings offset => (row? offset).map fun charstrings => { font with charstrings }
  | .fontDicts offset => (row? offset).map fun fontDicts => { font with fontDicts }
  | .fontSelect offset =>
    (FontSelect.read? (rest offset)).map fun select => { font with fontSelect := some select }
  | .privateRange start length =>
    some { font with privateRange := (start.toNat, length.toNat) }
  | .matrix operands => some { font with matrix := Matrix.ofOperands? operands }
  | .variationStore offset =>
    if font.table.second then
      if offset < 0 then none
      else
        (VariationStore.read? (rest (offset + 2))).map fun store =>
          { font with store := some store }
    else some font
  | _ => some font

/-- The font of a table, none if its top dictionary cannot be followed. -/
def ofTable? (table : Table) (unitsPerEm : Nat) : Option Font := do
  let start : Font := ⟨table, unitsPerEm, .empty, .empty, none, (0, 0), none, none⟩
  (← entries? (← table.topDict) none).foldlM take? start

/-- The part of the table that a font dictionary adds: its private dictionary and its matrix. -/
structure Part where
  privateRange : Nat × Nat
  matrix : Option Matrix

def part? (font : Font) (number : Nat) : Option Part :=
  if font.fontDicts.count = 0 then some ⟨font.privateRange, none⟩
  else do
    let entries ← entries? (← font.fontDicts.get? number) none
    let part := entries.foldl
      (fun (part : Option (Nat × Nat) × Option Matrix) entry =>
        match entry with
        | .privateRange start length => (some (start.toNat, length.toNat), part.2)
        | .matrix operands => (part.1, Matrix.ofOperands? operands)
        | _ => part)
      (none, none)
    pure ⟨← part.1, part.2⟩

/-- What a private dictionary says: where its subroutines are, and its index of the store. -/
structure Private where
  subroutines : Option Int
  index : Nat

def private? (font : Font) (range : Nat × Nat) : Option Private := do
  let bytes ← font.table.bytes.slice? range.1 range.2
  let regions : Option RegionCount := match font.store with
    | none => none
    | some store => some fun index => (store.regions? index).map List.length
  if let some count := regions then
    if (count 0).isNone then failure
  let entries ← entries? bytes regions
  pure (entries.foldl
    (fun own entry => match entry with
      | .subroutines offset => { own with subroutines := some (offset + range.1) }
      | .variationIndex index => { own with index := index.toNat % 0x10000 }
      | _ => own)
    ⟨none, 0⟩)

/-- The matrix of a part, normalized, after that of the font. -/
def matrixOf (font : Font) (part : Part) : Option Matrix :=
  match font.matrix, part.matrix with
  | some top, some own => some (top.concat own).normalized
  | some top, none => some top.normalized
  | none, some own => some own.normalized
  | none, none => none

end Font
end SizedFace.Cff
