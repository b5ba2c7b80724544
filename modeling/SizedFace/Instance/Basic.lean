import SizedFace.Backend
import SizedFace.Journal

namespace SizedFace

/-- A part that an instance holds, with the handle it is given back by. -/
structure Possession (α : Type) where
  value : α
  handle : Handle

structure Instance where
  path : Path
  faceIndex : Nat
  pointSize : Binary32
  unitsPerEm : Nat
  ascent : Binary32
  /-- Negative below the baseline. -/
  descent : Binary32
  capHeight : Binary32
  xHeight : Binary32
  italicAngle : Binary32
  glyphCount : Nat
  /-- Whether advances run down the column. -/
  vertical : Bool
  face : Possession OutlineFace
  shaper : Possession ShapingHandle
  platform : Option (Possession PlatformResources)
  data : FontData
  companion : Option FontData

def scaleUnits (units pointSize : Binary32) (unitsPerEm : Nat) : Binary32 :=
  units * pointSize / .ofNat unitsPerEm

namespace Instance

def setVertical (i : Instance) (vertical : Bool) : Instance := { i with vertical }

def variant (i : Instance) : Variant :=
  match i.platform with
  | some platform => platform.value.variant
  | none => .portable

def unitsToPoints (i : Instance) (units : Binary32) : Binary32 :=
  scaleUnits units i.pointSize i.unitsPerEm

def pointsToUnits (i : Instance) (points : Binary32) : Binary32 :=
  points * .ofNat i.unitsPerEm / i.pointSize

/-- The glyph of a character, `.notdef` when it has none. -/
def mapChar (i : Instance) (code : Nat) : Nat := (i.face.value.mapChar code).getD notdef

def mapName (i : Instance) (name : String) : Nat := (i.face.value.glyphByName name).getD notdef

def firstChar (i : Instance) : Nat := i.face.value.firstChar.getD noCharCode

def lastChar (i : Instance) : Nat := i.face.value.lastChar.getD noCharCode

def hasGlyph (i : Instance) (glyph : Nat) : Bool := glyph < i.glyphCount

def glyphName (i : Instance) (glyph : Nat) : Option String :=
  if i.hasGlyph glyph then i.face.value.glyphName glyph else none

def glyphWidth (i : Instance) (glyph : Nat) : Binary32 :=
  if i.hasGlyph glyph then
    match i.face.value.advance glyph i.vertical with
    | some units => i.unitsToPoints units
    | none => .zero
  else .zero

/-- The control box of a glyph; the zero box for one without an outline. -/
def glyphBounds (i : Instance) (glyph : Nat) : Box :=
  if i.hasGlyph glyph then
    match i.face.value.bounds glyph with
    | some box => box.scaled (i.pointSize / .ofNat i.unitsPerEm)
    | none => .zero
  else .zero

def glyphHeight (i : Instance) (glyph : Nat) : Binary32 := (i.glyphBounds glyph).yMax

/-- The depth below the baseline, positive for a glyph that goes below it. -/
def glyphDepth (i : Instance) (glyph : Nat) : Binary32 := -(i.glyphBounds glyph).yMin

def leftBearing (i : Instance) (glyph : Nat) : Binary32 := (i.glyphBounds glyph).xMin

def rightBearing (i : Instance) (glyph : Nat) : Binary32 :=
  i.glyphWidth glyph - (i.glyphBounds glyph).xMax

/-- How far the ink of a slanted glyph goes beyond its advance; zero for upright faces. -/
def italicCorrection (i : Instance) (glyph : Nat) : Binary32 :=
  if i.italicAngle.same .zero then .zero
  else if (i.glyphWidth glyph).lt (i.glyphBounds glyph).xMax then
    (i.glyphBounds glyph).xMax - i.glyphWidth glyph
  else .zero

def table (i : Instance) (tag : Tag) : Option Bytes := i.face.value.table tag

def namedTable (i : Instance) (table : NamedTable) : Option Bytes := i.table table.tag

def describe (i : Instance) : String :=
  let float (x : Binary32) : String := x.text .described
  "FontInstance \x7b filename: " ++ i.path.describe ++
    ", face_index: " ++ toString i.faceIndex ++
    ", point_size: " ++ float i.pointSize ++
    ", units_per_em: " ++ toString i.unitsPerEm ++
    ", ascent: " ++ float i.ascent ++
    ", descent: " ++ float i.descent ++
    ", vertical: " ++ toString i.vertical ++
    ", variant: " ++ i.variant.describe ++
    ", shaper: \"" ++ i.shaper.value.name ++ "\" \x7d"

/-- What happens when an instance goes: the platform resources are released and discarded first,
then the shaper is released, and the face last. -/
def teardown (i : Instance) : Journal :=
  (match i.platform with
    | some platform =>
      .said (.resourcesReleased platform.value.variant i.path) ::
        Journal.told platform.value.farewell ++
        [.released platform.handle, .discarded platform.handle]
    | none => []) ++
  .said (.released i.path i.faceIndex) :: Journal.told i.shaper.value.farewell ++
  [.released i.shaper.handle, .released i.face.handle]

end Instance
end SizedFace
