import SizedFace.Binary32.Decimal
import SizedFace.Path
import SizedFace.SystemError
import SizedFace.Tag

namespace SizedFace

inductive ReadFault where
  | outOfBounds
  /-- No known version of a font file. -/
  | version (number : Nat)
  | missing (tag : Tag)
  deriving DecidableEq

def ReadFault.message : ReadFault → String
  | .outOfBounds => "An offset was out of bounds"
  | .version number => "Invalid sfnt version 0x" ++ (Text.hexPadded 8 number).toUpper
  | .missing tag => "the " ++ tag.text ++ " table is missing"

inductive FormatFault where
  | unreadable (fault : ReadFault)
  | unusableHead (fault : ReadFault)
  | described (text : String)
  deriving DecidableEq

def FormatFault.message : FormatFault → String
  | .unreadable fault => fault.message
  | .unusableHead fault => "no usable head table: " ++ fault.message
  | .described text => text

inductive MetricsFault where
  | zeroUnitsPerEm
  /-- The outline backend opened the face, and reported no grid for it. -/
  | zeroReported (backend : String) (path : Path)
  | described (text : String)
  deriving DecidableEq

def MetricsFault.message : MetricsFault → String
  | .zeroUnitsPerEm => "units per em is zero"
  | .zeroReported backend path => backend ++ " reported zero units per em for " ++ path.text
  | .described text => text

structure BackendFault where
  backend : String
  reason : String
  deriving DecidableEq

def BackendFault.message (fault : BackendFault) : String := fault.backend ++ ": " ++ fault.reason

inductive LoadFault where
  | notFound (path : Path)
  | unreadable (path : Path) (cause : AccessFault)
  | tooLarge (path : Path) (size limit : Nat)
  | allocation (size : Nat)
  | faceOutOfRange (index count : Nat)
  | unsupported (fault : FormatFault)
  | metrics (fault : MetricsFault)
  | pointSize (size : Binary32)
  | backend (fault : BackendFault)
  deriving DecidableEq

namespace LoadFault

def code : LoadFault → Nat
  | .notFound _ => 1
  | .unreadable _ _ => 2
  | .tooLarge _ _ _ => 3
  | .allocation _ => 4
  | .faceOutOfRange _ _ => 5
  | .unsupported _ => 6
  | .metrics _ => 7
  | .pointSize _ => 8
  | .backend _ => 9

def message : LoadFault → String
  | .notFound path => "Font file not found: " ++ path.text
  | .unreadable path cause => "Failed to read font at " ++ path.text ++ ": " ++ cause.message
  | .tooLarge path size limit =>
    "Font file too large: " ++ toString size ++ " bytes (max: " ++ toString limit ++
      " bytes) at " ++ path.text
  | .allocation size => "Failed to allocate " ++ toString size ++ " bytes for font data"
  | .faceOutOfRange index count =>
    "Face index " ++ toString index ++ " out of range (resource has " ++ toString count ++
      " face(s))"
  | .unsupported fault => "Unsupported font format: " ++ fault.message
  | .metrics fault => "Invalid font metrics: " ++ fault.message
  | .pointSize size => "Invalid point size: " ++ size.text .plain
  | .backend fault => "Backend error: " ++ fault.message

/-- The messages of the fault and of what caused it, outermost first. -/
def chain (fault : LoadFault) : List String :=
  fault.message :: match fault with
    | .unreadable _ cause => [cause.message]
    | .backend cause => [cause.message]
    | _ => []

end LoadFault

inductive OpenFault where
  | load (fault : LoadFault)
  | platform (fault : BackendFault)
  deriving DecidableEq

namespace OpenFault

def code : OpenFault → Nat
  | .load fault => fault.code
  | .platform _ => 10

def message : OpenFault → String
  | .load fault => "Font loading failed: " ++ fault.message
  | .platform fault => "Platform variant failed: " ++ fault.message

def causes : OpenFault → List String
  | .load fault => fault.chain
  | .platform fault => [fault.message]

end OpenFault
end SizedFace
