import SizedFace.FontData
import SizedFace.Notice

namespace SizedFace

/-- An open face. Every question may have no answer. -/
structure OutlineFace where
  metrics : FaceMetrics
  glyphCount : Nat
  mapChar : Nat → Option Nat
  firstChar : Option Nat
  lastChar : Option Nat
  glyphName : Nat → Option String
  glyphByName : String → Option Nat
  /-- The advance of a glyph in font units, along the line or, if the flag is set, down the
  column. -/
  advance : Nat → Bool → Option Binary32
  bounds : Nat → Option Box
  table : Tag → Option Bytes

/-- Which backend made a part, and whether it counts the parts that it hands out and gets back. -/
structure Maker where
  name : String
  counts : Bool
  deriving DecidableEq

structure OutlineBackend where
  maker : Maker
  /-- Opens a face of the data; a second resource may supply tables that the face lacks. -/
  openFace : FontData → Option FontData → Nat → Except LoadFault OutlineFace × List Notice
  /-- What a face answers, opened with this companion and under this index, once its data and its
  companion have come to hold other bytes. -/
  reread : OutlineFace → Option FontData → Nat → FontData → Option FontData → OutlineFace
  reread_self : ∀ data companion index face, (openFace data companion index).1 = .ok face →
    reread face companion index data companion = face

inductive Binding where
  /-- A face and its grid, and nothing behind them. -/
  | noted (index unitsPerEm : Nat)
  /-- A font of a shaping engine, scaled alike on both axes. -/
  | engine (index scale glyphCount : Nat)
  deriving DecidableEq

structure ShapingHandle where
  name : String
  binding : Binding
  /-- Whether the handle holds on to the font data. -/
  keepsData : Bool
  /-- What is said when it is released. -/
  farewell : List Notice

structure ShapingBackend where
  maker : Maker
  /-- Makes a handle for a face of the data, with its units per em. -/
  createHandle : FontData → Nat → Nat → Except BackendFault ShapingHandle × List Notice

structure PlatformResources where
  variant : Variant
  faceIndex : Nat
  pointSize : Binary32
  /-- What is said when they are released. -/
  farewell : List Notice

structure PlatformBackend where
  maker : Maker
  variant : Variant
  attach : FontData → Nat → Binary32 → Except BackendFault PlatformResources × List Notice

def OutlineBackend.name (b : OutlineBackend) : String := b.maker.name

def ShapingBackend.name (b : ShapingBackend) : String := b.maker.name

def PlatformBackend.name (b : PlatformBackend) : String := b.maker.name

end SizedFace
