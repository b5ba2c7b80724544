import SizedFace.Cff.Charstring
import SizedFace.Outline.Pen

namespace SizedFace.Cff

def wholeUnits (v : Int) : Int := (Fixed.mul v 0x400).fdiv 0x400

/-- A point on the grid of the face. Without a matrix the grids agree; with one whose grid is
another, the units are scaled, to parts of 64. -/
def place (matrix : Option Matrix) (unitsPerEm : Nat) (x y : Int) : Int × Int :=
  let (x, y) := (wholeUnits x, wholeUnits y)
  match matrix with
  | none => (Fixed.ofInt x, Fixed.ofInt y)
  | some m =>
    let x' := Fixed.add (Fixed.add (Fixed.mul m.xx x) (Fixed.mul m.xy y)) m.dx
    let y' := Fixed.add (Fixed.add (Fixed.mul m.yx x) (Fixed.mul m.yy y)) m.dy
    if m.grid = unitsPerEm then (Fixed.ofInt x', Fixed.ofInt y')
    else
      let scale := Fixed.mulDiv (Fixed.ofInt 64) unitsPerEm m.grid
      (Fixed.wrap (Fixed.mul x' scale * 0x400), Fixed.wrap (Fixed.mul y' scale * 0x400))

def Stroke.map (f : Int → Int → Int × Int) : Stroke → Stroke
  | .move x y => let (x, y) := f x y; .move x y
  | .line x y => let (x, y) := f x y; .line x y
  | .curve x₁ y₁ x₂ y₂ x y =>
    let (x₁, y₁) := f x₁ y₁
    let (x₂, y₂) := f x₂ y₂
    let (x, y) := f x y
    .curve x₁ y₁ x₂ y₂ x y
  | .close => .close

/-- A path while strokes that go nowhere are left out: where it began, where it is, and the move
that waits for a stroke to go somewhere. -/
structure Trace where
  first : Option (Int × Int)
  last : Option (Int × Int)
  waiting : Option (Int × Int)

namespace Trace

def start : Trace := ⟨none, none, none⟩

/-- The line back to where the path began, unless it is there. -/
def back (t : Trace) : List Stroke :=
  match t.first with
  | some (x, y) => if t.last = t.first then [] else [.line x y]
  | none => []

/-- The waiting move, after the path before it is led back. -/
def flush (t : Trace) : Trace × List Stroke :=
  match t.waiting with
  | some (x, y) => (⟨some (x, y), none, none⟩, t.back ++ [.move x y])
  | none => (t, [])

def step (t : Trace) : Stroke → Trace × List Stroke
  | .move x y => ({ t with waiting := some (x, y) }, [])
  | .line x y =>
    if t.waiting = some (x, y) ∨ t.last = some (x, y) then (t, [])
    else
      let (t, before) := t.flush
      ({ t with last := some (x, y) }, before ++ [.line x y])
  | .curve x₁ y₁ x₂ y₂ x y =>
    let (t, before) := t.flush
    ({ t with last := some (x, y) }, before ++ [.curve x₁ y₁ x₂ y₂ x y])
  | .close =>
    if t.waiting.isSome then (t, [])
    else (⟨none, none, none⟩, t.back ++ [.close])

/-- The strokes that go somewhere; at the end the path is led back. -/
def run (t : Trace) : List Stroke → List Stroke
  | [] => t.back
  | stroke :: rest =>
    let (t, out) := t.step stroke
    out ++ t.run rest

end Trace

def Stroke.command : Stroke → PenCommand
  | .move x y => .move (.ofFixed x 16) (.ofFixed y 16)
  | .line x y => .line (.ofFixed x 16) (.ofFixed y 16)
  | .curve x₁ y₁ x₂ y₂ x y =>
    .curve (.ofFixed x₁ 16) (.ofFixed y₁ 16) (.ofFixed x₂ 16) (.ofFixed y₂ 16)
      (.ofFixed x 16) (.ofFixed y 16)
  | .close => .close

namespace Font

/-- The glyph of a code of the standard encoding, by the string that names it. -/
def encodedGlyph? (font : Font) (code : Int) : Option Nat := do
  if font.table.second ∨ code < 0 then none
  else
    let string ← standardEncoding[code.toNat]?
    (← font.table.charset?).glyph? string

def outline? (font : Font) (glyph : Nat) : Option Outline := do
  let number ← match font.fontSelect with
    | some select => select.number? glyph
    | none => some 0
  let part ← font.part? number
  let own ← font.private? part.privateRange
  let subroutines ← match own.subroutines with
    | none => some none
    | some offset => (font.table.row? offset).map some
  let regions (index : Nat) : Option (List Bool) :=
    font.store.bind fun store => store.regions? index
  let mixed ← match font.store with
    | none => some none
    | some _ => (regions own.index).map some
  let program : Program :=
    ⟨font.charstrings, font.table.subroutines, subroutines, font.encodedGlyph?, regions⟩
  let code ← font.charstrings.get? glyph
  let m ← run? program maxDepth code.toList (.start mixed)
  let strokes := m.strokes.reverse.map (Stroke.map (place (font.matrixOf part) font.unitsPerEm))
  pure ((Trace.start.run strokes).map Stroke.command)

end Font
end SizedFace.Cff
