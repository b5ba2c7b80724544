import SizedFace.Binary32.Basic

namespace SizedFace

/-- Four edges; `y` grows upward from the baseline. -/
structure Box where
  xMin : Binary32
  yMin : Binary32
  xMax : Binary32
  yMax : Binary32
  deriving DecidableEq, Inhabited

namespace Box

/-- The box of a glyph without an outline. -/
def zero : Box := ⟨.zero, .zero, .zero, .zero⟩

def scaled (box : Box) (factor : Binary32) : Box :=
  ⟨box.xMin * factor, box.yMin * factor, box.xMax * factor, box.yMax * factor⟩

def same (a b : Box) : Bool :=
  a.xMin.same b.xMin && a.yMin.same b.yMin && a.xMax.same b.xMax && a.yMax.same b.yMax

end Box

/-- The glyph of every failed lookup. -/
def notdef : Nat := 0

/-- The answer for the first and last character of an empty character map. -/
def noCharCode : Nat := 0xFFFFFFFF

/-- Face-wide metrics in font units. The descent is negative below the baseline, and the italic
angle is in degrees, counter-clockwise from the vertical. -/
structure FaceMetrics where
  unitsPerEm : Nat
  ascent : Binary32
  descent : Binary32
  capHeight : Option Binary32
  xHeight : Option Binary32
  italicAngle : Binary32
  deriving DecidableEq

def FaceMetrics.blank : FaceMetrics := ⟨0, .zero, .zero, none, none, .zero⟩

/-- What an instance holds beside its outlines and its shaper. -/
inductive Variant where
  /-- No platform font. -/
  | portable
  /-- A font of the operating system as well. -/
  | native
  deriving DecidableEq

def Variant.all : List Variant := [.portable, .native]

def Variant.name : Variant → String
  | .portable => "portable"
  | .native => "coretext"

def Variant.describe : Variant → String
  | .portable => "Portable"
  | .native => "CoreText"

end SizedFace
