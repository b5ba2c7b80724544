import SizedFace.Fixed
import SizedFace.Outline.Pen

namespace SizedFace

/-- A point in parts of 64 of a font unit. -/
structure ContourPoint where
  x : Int
  y : Int
  onCurve : Bool
  deriving DecidableEq

abbrev Contour := List ContourPoint

namespace Contour

def coordinate (v : Int) : Binary32 := .ofFixed v 6

def moveTo (p : ContourPoint) : PenCommand := .move (coordinate p.x) (coordinate p.y)

def lineTo (p : ContourPoint) : PenCommand := .line (coordinate p.x) (coordinate p.y)

def quadTo (c p : ContourPoint) : PenCommand :=
  .quad (coordinate c.x) (coordinate c.y) (coordinate p.x) (coordinate p.y)

/-- The point between two points; a half goes toward zero. -/
def middle (p q : ContourPoint) : ContourPoint :=
  ⟨(Fixed.add p.x q.x).tdiv 2, (Fixed.add p.y q.y).tdiv 2, true⟩

/-- The commands through the points and back to the start; `waiting` is the control point that no
curve has used yet. -/
def through (start : ContourPoint) : Option ContourPoint → Contour → List PenCommand
  | none, [] => [.close]
  | some c, [] => [quadTo c start, .close]
  | none, p :: rest =>
    if p.onCurve then lineTo p :: through start none rest else through start (some p) rest
  | some c, p :: rest =>
    if p.onCurve then quadTo c p :: through start none rest
    else quadTo c (middle c p) :: through start (some p) rest

/-- The commands of a contour. One that does not begin on the curve begins at its last point, or
else between its last point and its first. -/
def commands (contour : Contour) : List PenCommand :=
  match contour.head?, contour.getLast? with
  | some first, some last =>
    if first.onCurve then moveTo first :: through first none (contour.drop 1)
    else if last.onCurve then moveTo last :: through last none contour.dropLast
    else moveTo (middle last first) :: through (middle last first) none contour
  | _, _ => []

end Contour
end SizedFace
