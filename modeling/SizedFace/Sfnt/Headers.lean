import SizedFace.Box
import SizedFace.Sfnt.Directory

namespace SizedFace.Sfnt

structure Head where
  unitsPerEm : Nat
  /-- Whether the places of glyphs take four bytes. -/
  longPlaces : Bool
  deriving DecidableEq

namespace Directory

def head (d : Directory) : Except ReadFault Head :=
  match d.require .head with
  | .error fault => .error fault
  | .ok table =>
    if table.size < 54 then .error .outOfBounds
    else .ok ⟨(table.u16? 18).getD 0, table.i16? 50 = some 1⟩

/-- The number of glyphs. The first version of the table has more fields, which must be there. -/
def glyphCount? (d : Directory) : Option Nat := do
  let table ← d.table? .maxp
  let version ← table.u32? 0
  let count ← table.u16? 4
  if version / 0x10000 = 1 ∧ table.size < 32 then none else pure count

def glyphCount (d : Directory) : Nat := d.glyphCount?.getD 0

/-- A header of advances: the line it suggests, and how many glyphs have an advance of their own. -/
structure LineHeader where
  ascender : Int
  descender : Int
  advanceCount : Nat
  deriving DecidableEq

def lineHeader? (d : Directory) (tag : Tag) : Option LineHeader := do
  let table ← d.table? tag
  if table.size < 36 then none
  else pure ⟨← table.i16? 4, ← table.i16? 6, ← table.u16? 34⟩

structure SystemMetrics where
  typoAscender : Int
  typoDescender : Int
  winAscent : Nat
  winDescent : Nat
  /-- Whether the typographic line is to be used. -/
  usesTypo : Bool
  xHeight : Option Int
  capHeight : Option Int
  deriving DecidableEq

def systemMetricsLength (version : Nat) : Nat :=
  if version = 0 then 78 else if version = 1 then 86 else if version < 5 then 96 else 100

def systemMetrics? (d : Directory) : Option SystemMetrics := do
  let table ← d.table? .os2
  let version ← table.u16? 0
  if table.size < systemMetricsLength version then none
  else
    let heights := 2 ≤ version
    pure {
      typoAscender := ← table.i16? 68
      typoDescender := ← table.i16? 70
      winAscent := ← table.u16? 74
      winDescent := ← table.u16? 76
      usesTypo := (← table.u16? 62).testBit 7
      xHeight := if heights then table.i16? 86 else none
      capHeight := if heights then table.i16? 88 else none }

/-- The italic angle, a fixed-point number of 16 bits behind the point, and the whole table. -/
def postscript? (d : Directory) : Option (Int × Bytes) := do
  let table ← d.table? .post
  let version ← table.u32? 0
  let angle ← table.i32? 4
  if table.size < 32 then none
  else if version / 0x10000 = 2 then
    let count ← table.u16? 32
    if table.size < 34 + 2 * count then none else pure (angle, table)
  else pure (angle, table)

end Directory

/-- The line of a face: the typographic one where the face asks for it, else the one of the advance
header; and when that is blank, the typographic one if it is not, else the clipping bounds. -/
def lineOf (line : Option Directory.LineHeader) (system : Option Directory.SystemMetrics) :
    Binary32 × Binary32 :=
  let (ascent, descent) := match line with
    | some line => (line.ascender, line.descender)
    | none => (0, 0)
  match system with
  | none => (.ofInt ascent, .ofInt descent)
  | some system =>
    if system.usesTypo then (.ofInt system.typoAscender, .ofInt system.typoDescender)
    else if ascent = 0 ∧ descent = 0 then
      if system.typoAscender ≠ 0 ∨ system.typoDescender ≠ 0 then
        (.ofInt system.typoAscender, .ofInt system.typoDescender)
      else (.ofNat system.winAscent, -.ofNat system.winDescent)
    else (.ofInt ascent, .ofInt descent)

def Directory.metrics (d : Directory) (head : Head) : FaceMetrics :=
  let system := d.systemMetrics?
  let (ascent, descent) := lineOf (d.lineHeader? .hhea) system
  { unitsPerEm := head.unitsPerEm
    ascent, descent
    capHeight := (system.bind (·.capHeight)).map .ofInt
    xHeight := (system.bind (·.xHeight)).map .ofInt
    italicAngle := match d.postscript? with
      | some (angle, _) => .ofFixed angle 16
      | none => .zero }

/-- Advances and bearings along one axis: those with both, then the bearings that follow. -/
structure AdvanceTable where
  pairs : Array (Nat × Int)
  bearings : Array Int

namespace AdvanceTable

def read? (d : Directory) (header table : Tag) : Option AdvanceTable := do
  let line ← d.lineHeader? header
  let bytes ← d.table? table
  let pairs ← bytes.numbers? 0 4 line.advanceCount
  pure {
    pairs := pairs.map fun n => (n / 0x10000, Bytes.signed 16 (n % 0x10000))
    bearings := (bytes.u16sFrom (4 * line.advanceCount)).map (Bytes.signed 16) }

/-- The stored advance of a glyph; the last one is that of all glyphs after it. -/
def advance? (t : AdvanceTable) (glyph : Nat) : Option Nat :=
  match t.pairs[glyph]? with
  | some pair => some pair.1
  | none => t.pairs.back?.map Prod.fst

def bearing (t : AdvanceTable) (glyph : Nat) : Int :=
  match t.pairs[glyph]? with
  | some pair => pair.2
  | none => t.bearings[glyph - t.pairs.size]?.getD 0

end AdvanceTable

/-- The advance table along the line; it is read only for a face that counts its glyphs. -/
def Directory.horizontal? (d : Directory) : Option AdvanceTable :=
  d.glyphCount?.bind fun _ => AdvanceTable.read? d .hhea .hmtx

def Directory.vertical? (d : Directory) : Option AdvanceTable :=
  d.glyphCount?.bind fun _ => AdvanceTable.read? d .vhea .vmtx

end SizedFace.Sfnt
