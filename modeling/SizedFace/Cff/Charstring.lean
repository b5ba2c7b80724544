import SizedFace.Cff.Font
import SizedFace.Cff.Index

namespace SizedFace.Cff

/-- A path command with fixed-point coordinates. -/
inductive Stroke where
  | move (x y : Int)
  | line (x y : Int)
  | curve (x₁ y₁ x₂ y₂ x y : Int)
  | close
  deriving DecidableEq

inductive Number where
  | whole (i : Int)
  | fixed (parts : Int)
  deriving DecidableEq

def Number.toFixed : Number → Int
  | .whole i => Fixed.ofInt i
  | .fixed parts => parts

def Number.whole? : Number → Option Int
  | .whole i => some i
  | .fixed _ => none

inductive Operator where
  | stem
  | mask
  | moveBoth | moveX | moveY
  | lines | linesFromX | linesFromY
  | curves | curvesLine | linesCurve
  | curvesX | curvesY | curvesFromX | curvesFromY
  | flex | flexX | flexX1 | flex1
  | call | callShared | back
  | variation | blend
  | finish
  deriving DecidableEq

/-- The operators by their codes; other codes mean nothing, and are passed over. -/
def Operator.ofCode? : Nat → Option Operator
  | 1 | 3 | 18 | 23 => some .stem
  | 4 => some .moveY
  | 5 => some .lines
  | 6 => some .linesFromX
  | 7 => some .linesFromY
  | 8 => some .curves
  | 10 => some .call
  | 11 => some .back
  | 14 => some .finish
  | 15 => some .variation
  | 16 => some .blend
  | 19 | 20 => some .mask
  | 21 => some .moveBoth
  | 22 => some .moveX
  | 24 => some .curvesLine
  | 25 => some .linesCurve
  | 26 => some .curvesY
  | 27 => some .curvesX
  | 29 => some .callShared
  | 30 => some .curvesFromY
  | 31 => some .curvesFromX
  | 290 => some .flexX
  | 291 => some .flex
  | 292 => some .flexX1
  | 293 => some .flex1
  | _ => none

/-- What the programs of a glyph refer to. -/
structure Program where
  charstrings : Index
  shared : Index
  own : Option Index
  /-- The glyph of a code of the standard encoding. -/
  encoded : Int → Option Nat
  /-- The regions under each index of the variation store. -/
  regions : Nat → Option (List Bool)

structure Machine where
  operands : List Number
  /-- What the slots after the operands last held. An operator that takes more operands than there
  are finds these, and zeros in slots that were never used. -/
  spent : List Number
  x : Int
  y : Int
  isOpen : Bool
  widthRead : Bool
  stems : Nat
  /-- The regions that mixtures are over. -/
  regions : Option (List Bool)
  /-- What is drawn so far, the last command first. -/
  strokes : List Stroke

namespace Machine

def start (regions : Option (List Bool)) : Machine := ⟨[], [], 0, 0, false, false, 0, regions, []⟩

def draw (m : Machine) (stroke : Stroke) : Machine := { m with strokes := stroke :: m.strokes }

def clear (m : Machine) : Machine := { m with operands := [], spent := m.operands ++ m.spent }

/-- At most this many operands wait for an operator. -/
def push? (m : Machine) (n : Number) : Option Machine :=
  if m.operands.length < maxOperands then
    some { m with operands := m.operands ++ [n], spent := m.spent.drop 1 }
  else none

def values (m : Machine) : List Int := m.operands.map Number.toFixed

def slots (m : Machine) : List Int := (m.operands ++ m.spent).map Number.toFixed

def pop? (m : Machine) : Option (Number × Machine) :=
  m.operands.getLast?.map fun n =>
    (n, { m with operands := m.operands.dropLast, spent := n :: m.spent })

def popWhole? (m : Machine) : Option (Int × Machine) := do
  let (n, m) ← m.pop?
  pure (← n.whole?, m)

def popFixed? (m : Machine) : Option (Int × Machine) :=
  m.pop?.map fun (n, m) => (n.toFixed, m)

def close (m : Machine) : Machine := m.draw .close

/-- Whether the first operand is the width, which comes on top of the operands of the first operator
that takes it, and how many operands it is. -/
def takeWidth (m : Machine) (present : Bool) : Machine × Nat :=
  if present && !m.widthRead then ({ m with widthRead := true }, 1) else (m, 0)

/-- Two operands from a place on; the second one may be missing, and counts as zero. -/
def pair? (m : Machine) (place : Nat) : Option (Int × Int) :=
  (m.values.drop place).head?.map fun a => (a, (m.values.drop (place + 1)).headD 0)

def moveBy (m : Machine) (dx dy : Int) : Machine :=
  let m := if m.isOpen then m.close else { m with isOpen := true }
  let m := { m with x := Fixed.add m.x dx, y := Fixed.add m.y dy }
  (m.draw (.move m.x m.y)).clear

def lineBy (m : Machine) (dx dy : Int) : Machine :=
  let m := { m with x := Fixed.add m.x dx, y := Fixed.add m.y dy }
  m.draw (.line m.x m.y)

/-- How one point of a curve is given. -/
inductive Way where
  | both
  /-- The vertical distance first. -/
  | bothBack
  | alongX
  | alongY
  /-- Along `x`, at the height where the operator began. -/
  | alongXHome
  /-- Along the axis that the path went further on, back to the beginning on the other. -/
  | farther

/-- Goes one way from `(x, y)`, on an operator that began at `home`; what is left of the values. -/
def Way.go (way : Way) (home : Int × Int) (x y : Int) (values : List Int) : Int × Int × List Int :=
  let a := values.headD 0
  let rest := values.tail
  match way with
  | .alongX => (Fixed.add x a, y, rest)
  | .alongY => (x, Fixed.add y a, rest)
  | .alongXHome => (Fixed.add x a, home.2, rest)
  | .farther =>
    if (Fixed.sub y home.2).natAbs < (Fixed.sub x home.1).natAbs then (Fixed.add x a, home.2, rest)
    else (home.1, Fixed.add y a, rest)
  | .both => (Fixed.add x a, Fixed.add y (rest.headD 0), rest.tail)
  | .bothBack => (Fixed.add x (rest.headD 0), Fixed.add y a, rest.tail)

def curveBy (m : Machine) (home : Int × Int) (ways : Way × Way × Way) (values : List Int) :
    Machine × List Int :=
  let (x₁, y₁, values) := ways.1.go home m.x m.y values
  let (x₂, y₂, values) := ways.2.1.go home x₁ y₁ values
  let (x, y, values) := ways.2.2.go home x₂ y₂ values
  ({ m with x, y, strokes := .curve x₁ y₁ x₂ y₂ x y :: m.strokes }, values)

def home (m : Machine) : Int × Int := (m.x, m.y)

/-- Lines to the end; a lone last value is followed by zero. -/
def linesBy (m : Machine) : List Int → Machine
  | [] => m
  | [dx] => m.lineBy dx 0
  | dx :: dy :: rest => (m.lineBy dx dy).linesBy rest

def axisLines (m : Machine) (alongX : Bool) : List Int → Machine
  | [] => m
  | d :: rest => (if alongX then m.lineBy d 0 else m.lineBy 0 d).axisLines (!alongX) rest

def sameCurves (m : Machine) (ways : Way × Way × Way) : Nat → List Int → Machine × List Int
  | 0, values => (m, values)
  | count + 1, values =>
    let (m, rest) := m.curveBy m.home ways values
    m.sameCurves ways count rest

/-- Lines while there are more operands than a curve takes, then the curve. -/
def linesCurve (m : Machine) : Machine :=
  let lines := (m.operands.length - 5) / 2
  ((m.linesBy (m.values.take (2 * lines))).curveBy m.home (.both, .both, .both)
    (m.slots.drop (2 * lines))).1

/-- Curves that keep to an axis at both ends, as many as there are operands for. One operand too
many is the first, and moves the pen across the axis. -/
def axisCurves (m : Machine) (alongX : Bool) : Machine :=
  let odd := m.operands.length % 2
  let across := if odd = 1 then m.values.headD 0 else 0
  let start := if alongX then { m with y := Fixed.add m.y across }
    else { m with x := Fixed.add m.x across }
  let ways : Way × Way × Way :=
    if alongX then (.alongX, .both, .alongX) else (.alongY, .both, .alongY)
  (start.sameCurves ways ((m.operands.length - odd) / 4) (m.values.drop odd)).1

/-- Curves that begin along one axis and end along the other, in turn, for `left` operands; the last
one may end anywhere. -/
def turningCurves (m : Machine) (alongX : Bool) (left : Nat) (values : List Int) : Machine :=
  if left = 0 then m
  else
    let last := left = 5
    let ways : Way × Way × Way :=
      if alongX then (.alongX, .both, if last then .bothBack else .alongY)
      else (.alongY, .both, if last then .both else .alongX)
    let (m, rest) := m.curveBy m.home ways values
    m.turningCurves (!alongX) (left - (if last then 5 else 4)) rest
termination_by left
decreasing_by split <;> omega

def flexBy (m : Machine) (first second : Way × Way × Way) : Machine :=
  let home := m.home
  let (drawn, rest) := m.curveBy home first m.slots
  (drawn.curveBy home second rest).1.clear

/-- Stems are counted, for the masks; their places do not matter without hints. -/
def stem (m : Machine) : Machine :=
  let (m, width) := m.takeWidth (m.operands.length % 2 = 1)
  { m with stems := m.stems + (m.operands.length - width) / 2 }.clear

/-- Mixes operands: the last one tells how many values there are, then come the differences of each
value in every region. Regions that count add their difference. -/
def blend? (m : Machine) : Option Machine := do
  let regions ← m.regions
  let (count, m) ← m.popWhole?
  if count < 0 then none
  else
    let count := count.toNat
    let taken := count * (regions.length + 1)
    if m.operands.length < taken then none
    else
      let kept := m.operands.take (m.operands.length - taken)
      let values := (m.operands.drop (m.operands.length - taken)).map Number.toFixed
      let mixed := (List.range count).map fun i =>
        let own := (values.drop (count + i * regions.length)).take regions.length
        Number.fixed <| (own.zip regions).foldl
          (fun sum (difference, counts) => if counts then Fixed.add sum difference else sum)
          (values.getD i 0)
      let left := (values.drop count).map Number.fixed
      pure { m with operands := kept ++ mixed, spent := left ++ m.spent }

end Machine

open Machine

/-- Runs a program of a deeper level on the machine. -/
abbrev Call := List UInt8 → Machine → Option Machine

/-- Draws an accent and its base, both by their codes, the accent moved. -/
def composeAccent? (p : Program) (call : Call) (m : Machine) : Option Machine := do
  let (accentCode, m) ← m.popWhole?
  let accent ← p.encoded accentCode
  let (baseCode, m) ← m.popWhole?
  let base ← p.encoded baseCode
  let (dy, m) ← m.popFixed?
  let (dx, m) ← m.popFixed?
  let m ← if m.operands.isEmpty || m.widthRead then pure m
    else do
      let (_, m) ← m.popWhole?
      pure { m with widthRead := true }
  let (x, y) := m.home
  let m ← call (← p.charstrings.get? accent).toList { m with x := dx, y := dy }
  call (← p.charstrings.get? base).toList { m with x, y }

def callRow? (row : Option Index) (call : Call) (m : Machine) : Option Machine := do
  let (i, m) ← m.popWhole?
  let row ← row
  let place := i + row.bias
  if place < 0 then none else call (← row.get? place.toNat).toList m

/-- The last operator of a glyph: a width that nothing else took, or an accented glyph, may be
left. -/
def finish? (p : Program) (call : Call) (m : Machine) : Option Machine := do
  let n := m.operands.length
  let m ←
    if n = 4 ∨ n = 5 ∧ !m.widthRead then composeAccent? p call m
    else if n ≠ 0 ∧ !m.widthRead then pure { m.clear with widthRead := true }
    else pure m
  pure (if m.isOpen then { m with isOpen := false }.close else m)

/-- Performs an operator; the rest of the code, or none when the program ends with it. -/
def perform? (p : Program) (call : Call) (op : Operator) (rest : List UInt8) (m : Machine) :
    Option (Machine × Option (List UInt8)) := do
  let goOn (m : Machine) : Option (Machine × Option (List UInt8)) := some (m.clear, some rest)
  match op with
  | .stem => pure (m.stem, some rest)
  | .mask =>
    let m := m.stem
    let length := (m.stems + 7) / 8
    if rest.length < length then none else pure (m, some (rest.drop length))
  | .moveBoth =>
    let (m, width) := m.takeWidth (m.operands.length = 3)
    let (dx, dy) ← m.pair? width
    goOn (m.moveBy dx dy)
  | .moveX =>
    let (m, width) := m.takeWidth (m.operands.length = 2)
    goOn (m.moveBy ((m.slots.drop width).headD 0) 0)
  | .moveY =>
    let (m, width) := m.takeWidth (m.operands.length = 2)
    goOn (m.moveBy 0 ((m.slots.drop width).headD 0))
  | .lines => goOn (m.linesBy m.values)
  | .linesFromX => goOn (m.axisLines true m.values)
  | .linesFromY => goOn (m.axisLines false m.values)
  | .curves => goOn (m.sameCurves (.both, .both, .both) (m.operands.length / 6) m.values).1
  | .curvesLine =>
    let curves := m.operands.length / 6
    let (dx, dy) ← m.pair? (6 * curves)
    goOn ((m.sameCurves (.both, .both, .both) curves m.values).1.lineBy dx dy)
  | .linesCurve => goOn m.linesCurve
  | .curvesX => goOn (m.axisCurves true)
  | .curvesY => goOn (m.axisCurves false)
  | .curvesFromX | .curvesFromY =>
    let all := m.operands.length
    let skipped := if all / 2 % 2 = 1 then 2 else 0
    goOn (m.turningCurves (op = .curvesFromX) (all - 2 * skipped) (m.slots.drop skipped))
  | .flex => goOn (m.flexBy (.both, .both, .both) (.both, .both, .both))
  | .flexX => goOn (m.flexBy (.alongX, .both, .alongX) (.alongX, .alongXHome, .alongX))
  | .flexX1 => goOn (m.flexBy (.both, .both, .alongX) (.alongX, .both, .alongXHome))
  | .flex1 => goOn (m.flexBy (.both, .both, .both) (.both, .both, .farther))
  | .call => do pure (← callRow? p.own call m, some rest)
  | .callShared => do pure (← callRow? (some p.shared) call m, some rest)
  | .back => pure (m, none)
  | .variation => do
    let _ ← m.regions
    let (i, m) ← m.popWhole?
    pure ({ m with regions := some (← p.regions (i % 0x10000).toNat) }, some rest)
  | .blend => do pure (← m.blend?, some rest)
  | .finish => do pure (← finish? p call m, none)

def readFixed? : List UInt8 → Option (Int × List UInt8)
  | a :: b :: c :: d :: rest =>
    some (Bytes.signed 32 (((a.toNat * 256 + b.toNat) * 256 + c.toNat) * 256 + d.toNat), rest)
  | _ => none

/-- Follows code to its end, or to the operator that ends it. `fuel` bounds how many tokens it
has. -/
def follow? (p : Program) (call : Call) : Nat → List UInt8 → Machine → Option Machine
  | _, [], m => some m
  | 0, _ :: _, _ => none
  | fuel + 1, lead :: rest, m =>
    let code := lead.toNat
    if code = 255 then do
      let (parts, rest) ← readFixed? rest
      follow? p call fuel rest (← m.push? (.fixed parts))
    else if code = 28 ∨ 32 ≤ code then do
      let (i, rest) ← readWhole? code rest
      follow? p call fuel rest (← m.push? (.whole i))
    else
      let (code, rest) := if code = 12 then
          match rest with
          | b :: rest => (escape + b.toNat, rest)
          | [] => (code, [])
        else (code, rest)
      match Operator.ofCode? code with
      | none => follow? p call fuel rest m
      | some op =>
        match perform? p call op rest m with
        | none => none
        | some (m, none) => some m
        | some (m, some rest) => follow? p call fuel rest m

/-- Runs code on a machine; programs call one another down to `depth` levels. -/
def run? (p : Program) : Nat → List UInt8 → Machine → Option Machine
  | 0, _, _ => none
  | depth + 1, code, m => follow? p (run? p depth) code.length code m

def maxDepth : Nat := 11

end SizedFace.Cff
