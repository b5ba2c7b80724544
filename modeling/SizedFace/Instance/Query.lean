import SizedFace.Instance.Basic

namespace SizedFace

structure Summary where
  path : Path
  faceIndex : Nat
  pointSize : Binary32
  unitsPerEm : Nat
  ascent : Binary32
  descent : Binary32
  capHeight : Binary32
  xHeight : Binary32
  italicAngle : Binary32
  vertical : Bool
  glyphCount : Nat
  variant : Variant
  shaper : String
  hasPlatform : Bool
  data : FontData
  companion : Option FontData
  deriving DecidableEq

/-- The properties of a glyph, in points. -/
structure GlyphSummary where
  name : Option String
  width : Binary32
  bounds : Box
  height : Binary32
  depth : Binary32
  leftBearing : Binary32
  rightBearing : Binary32
  italicCorrection : Binary32
  deriving DecidableEq

inductive Query where
  | summary
  | description
  | data
  | points (units : List Binary32)
  | units (points : List Binary32)
  | chars (codes : List Nat)
  | charRange
  | names (names : List String)
  | glyphs (glyphs : List Nat)
  | tables (tags : List Tag)
  | namedTables
  | shaper
  | platform

inductive Answer where
  | summary (summary : Summary)
  | text (text : String)
  | data (data : FontData) (companion : Option FontData)
  | numbers (numbers : List Binary32)
  | glyphNumbers (glyphs : List Nat)
  | charRange (first last : Nat)
  | glyphs (glyphs : List GlyphSummary)
  | tables (tables : List (Option Bytes))
  | namedTables (tables : List (NamedTable × Option Bytes))
  | shaper (name : String) (binding : Binding)
  | platform (resources : Option PlatformResources)

namespace Instance

def summary (i : Instance) : Summary where
  path := i.path
  faceIndex := i.faceIndex
  pointSize := i.pointSize
  unitsPerEm := i.unitsPerEm
  ascent := i.ascent
  descent := i.descent
  capHeight := i.capHeight
  xHeight := i.xHeight
  italicAngle := i.italicAngle
  vertical := i.vertical
  glyphCount := i.glyphCount
  variant := i.variant
  shaper := i.shaper.value.name
  hasPlatform := i.platform.isSome
  data := i.data
  companion := i.companion

def glyphSummary (i : Instance) (glyph : Nat) : GlyphSummary where
  name := i.glyphName glyph
  width := i.glyphWidth glyph
  bounds := i.glyphBounds glyph
  height := i.glyphHeight glyph
  depth := i.glyphDepth glyph
  leftBearing := i.leftBearing glyph
  rightBearing := i.rightBearing glyph
  italicCorrection := i.italicCorrection glyph

def answer (i : Instance) : Query → Answer
  | .summary => .summary i.summary
  | .description => .text i.describe
  | .data => .data i.data i.companion
  | .points units => .numbers (units.map i.unitsToPoints)
  | .units points => .numbers (points.map i.pointsToUnits)
  | .chars codes => .glyphNumbers (codes.map i.mapChar)
  | .charRange => .charRange i.firstChar i.lastChar
  | .names names => .glyphNumbers (names.map i.mapName)
  | .glyphs glyphs => .glyphs (glyphs.map i.glyphSummary)
  | .tables tags => .tables (tags.map i.table)
  | .namedTables => .namedTables (NamedTable.all.map fun t => (t, i.namedTable t))
  | .shaper => .shaper i.shaper.value.name i.shaper.value.binding
  | .platform => .platform (i.platform.map (·.value))

end Instance
end SizedFace
