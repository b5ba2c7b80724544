import SizedFace.Box

namespace SizedFace

inductive PenCommand where
  | move (x y : Binary32)
  | line (x y : Binary32)
  | quad (cx cy x y : Binary32)
  | curve (cx₁ cy₁ cx₂ cy₂ x y : Binary32)
  | close

/-- The points a command names, control points first. -/
def PenCommand.points : PenCommand → List (Binary32 × Binary32)
  | .move x y | .line x y => [(x, y)]
  | .quad cx cy x y => [(cx, cy), (x, y)]
  | .curve cx₁ cy₁ cx₂ cy₂ x y => [(cx₁, cy₁), (cx₂, cy₂), (x, y)]
  | .close => []

abbrev Outline := List PenCommand

namespace Outline

def points (outline : Outline) : List (Binary32 × Binary32) := outline.flatMap PenCommand.points

def pointBox (p : Binary32 × Binary32) : Box := ⟨p.1, p.2, p.1, p.2⟩

def widen (box : Box) (p : Binary32 × Binary32) : Box :=
  ⟨box.xMin.min p.1, box.yMin.min p.2, box.xMax.max p.1, box.yMax.max p.2⟩

/-- One point more, the first of which makes the box. -/
def addPoint (box : Option Box) (p : Binary32 × Binary32) : Option Box :=
  some (widen (box.getD (pointBox p)) p)

/-- The box around every point the pen visits, on the curve or off it; none without points. -/
def controlBox (outline : Outline) : Option Box :=
  outline.foldl (fun box command => command.points.foldl addPoint box) none

theorem controlBox_eq (outline : Outline) :
    outline.controlBox = outline.points.foldl addPoint none := by
  unfold controlBox points
  rw [List.foldl_flatMap]

end Outline
end SizedFace
