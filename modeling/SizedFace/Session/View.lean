import SizedFace.FileTree
import SizedFace.Instance.Basic

namespace SizedFace

/-- The place of the file that loaded data maps, if it maps one. -/
def FileTree.mappedAt? (tree : FileTree) (path : Path) (data : FontData) : Option Place :=
  if data.mapped then (tree.find path).toOption.map (·.1) else none

/-- The files that an instance maps and that are still at their places, and what its face answers
once they have come to hold other bytes. -/
structure View where
  data : Option Place
  companion : Option Place
  reread : FontData → Option FontData → OutlineFace

namespace View

/-- Whether an in-place change of the file at a place reaches the instance. -/
def maps (v : View) (place : Place) : Bool := v.data = some place || v.companion = some place

/-- A file that is taken from its place, or replaced there, stays as it is for those who map it. -/
def detach (v : View) (place : Place) : View :=
  { v with data := v.data.filter (· ≠ place), companion := v.companion.filter (· ≠ place) }

end View

namespace Instance

/-- The instance over other bytes, with a face that answers from them. What it took from the file
when it was opened stays. -/
def showing (i : Instance) (data : FontData) (companion : Option FontData) (face : OutlineFace) :
    Instance :=
  { i with data, companion, face := { i.face with value := face } }

/-- The instance after an in-place change of the file at a place. -/
def reread (i : Instance) (v : View) (place : Place) (bytes : Bytes) : Instance :=
  let data := if v.data = some place then i.data.shown bytes else i.data
  let companion :=
    if v.companion = some place then i.companion.map (·.shown bytes) else i.companion
  if v.maps place then i.showing data companion (v.reread data companion) else i

end Instance

end SizedFace
