import SizedFace.Bytes
import SizedFace.Lookup
import SizedFace.Path
import SizedFace.SystemError

namespace SizedFace

/-- What an open file gives: the length it reports, whether there is room in memory for so many
bytes, and what reading and mapping it come to. -/
structure File where
  size : Nat
  room : Bool
  reading : Except AccessFault Bytes
  mapping : Except AccessFault Bytes

/-- A file that holds its content and can be read and mapped. -/
def File.ordinary (content : Bytes) : File := ⟨content.size, true, .ok content, .ok content⟩

inductive Node where
  | directory
  | file (file : File)
  /-- It can be neither opened nor walked through. -/
  | closed (fault : AccessFault)
  /-- It can be opened, and then tells neither its kind nor its length. -/
  | untold (fault : AccessFault)

/-- A place in the tree: the names on the way from the root. -/
abbrev Place := List (List UInt8)

structure FileTree where
  nodes : List (Place × Node)

namespace FileTree

/-- A directory whose name no path can spell, so that paths reach it only by starting in it. -/
def workingPlace : Place := ["tmp".toUTF8.toList, []]

def node? (tree : FileTree) (place : Place) : Option Node :=
  if place = [] then some .directory else tree.nodes.lookup place

def put (tree : FileTree) (place : Place) (node : Node) : FileTree :=
  ⟨(place, node) :: tree.nodes.filter (fun entry => entry.1 ≠ place)⟩

def erase (tree : FileTree) (place : Place) : FileTree :=
  ⟨tree.nodes.filter (fun entry => entry.1 ≠ place)⟩

theorem node?_put_self (tree : FileTree) {place : Place} (node : Node) (h : place ≠ []) :
    (tree.put place node).node? place = some node := by
  simp [node?, put, h]

theorem node?_put_of_ne (tree : FileTree) {place other : Place} (node : Node) (h : other ≠ place) :
    (tree.put place node).node? other = tree.node? other := by
  have hb : (other == place) = false := by simpa using h
  simp only [node?, put, List.lookup_cons, hb, lookup_filter_ne tree.nodes h]

theorem node?_erase_of_ne (tree : FileTree) {place other : Place} (h : other ≠ place) :
    (tree.erase place).node? other = tree.node? other := by
  simp only [node?, erase, lookup_filter_ne tree.nodes h]

def maxNameLength : Nat := 255

/-- A path, with the byte that ends it, is at most this long. -/
def maxPathLength : Nat := 4096

/-- Walks along names from a place. Every place that is walked through must be a directory. -/
def walk (tree : FileTree) (place : Place) : List (List UInt8) → Except AccessFault (Place × Node)
  | [] =>
    match tree.node? place with
    | none => .error .missing
    | some node => .ok (place, node)
  | name :: names =>
    match tree.node? place with
    | none => .error .missing
    | some (.file _) | some (.untold _) => .error .notDirectory
    | some (.closed fault) => .error fault
    | some .directory =>
      if name = Path.here then tree.walk place names
      else if name = Path.above then tree.walk place.dropLast names
      else if maxNameLength < name.length then .error .nameTooLong
      else tree.walk (place ++ [name]) names

def start (path : Path) : Place := if path.isAbsolute then [] else workingPlace

def find (tree : FileTree) (path : Path) : Except AccessFault (Place × Node) :=
  if path.bytes.contains 0 then .error .nulInPath
  else if path.bytes.isEmpty then .error .missing
  else if maxPathLength ≤ path.bytes.length then .error .nameTooLong
  else tree.walk (start path) path.names

/-- What opening a path comes to. -/
def look (tree : FileTree) (path : Path) : Except AccessFault Node :=
  match tree.find path with
  | .error fault => .error fault
  | .ok (_, .closed fault) => .error fault
  | .ok (_, node) => .ok node

/-- Where a name leads from a place, whether or not something is there. -/
def enter (place : Place) (name : List UInt8) : Place :=
  if name = Path.here then place
  else if name = Path.above then place.dropLast
  else place ++ [name]

/-- The place a path names, whether or not something is there. -/
def placeOf (path : Path) : Place := path.names.foldl enter (start path)

/-- The places above a place, the root apart. -/
def parents (place : Place) : List Place :=
  (List.range place.length).filterMap fun n => if n = 0 then none else some (place.take n)

/-- Puts a node at a path, with the directories above it. -/
def install (tree : FileTree) (path : Path) (node : Node) : FileTree :=
  let place := placeOf path
  let tree := (parents place).foldl
    (fun tree above =>
      match tree.node? above with
      | some _ => tree
      | none => tree.put above .directory)
    tree
  tree.put place node

/-- What a path names is from now on a file of this content. -/
def write (tree : FileTree) (path : Path) (content : Bytes) : FileTree :=
  tree.put (placeOf path) (.file (.ordinary content))

/-- Removes what is at a path and no directory, and tells whether there was such a thing. -/
def remove (tree : FileTree) (path : Path) : FileTree × Bool :=
  match tree.find path with
  | .error _ | .ok (_, .directory) => (tree, false)
  | .ok (place, _) => (tree.erase place, true)

/-- An empty working directory, and two files of the system: one reports no length and cannot be
read, the other reports a page and cannot be mapped. -/
def initial : FileTree :=
  let system (path : String) (file : File) (tree : FileTree) : FileTree :=
    tree.install (.ofString path) (.file file)
  ⟨[(["tmp".toUTF8.toList], .directory), (workingPlace, .directory)]⟩
    |> system "/proc/self/mem" ⟨0, true, .error .inputOutput, .error .noDevice⟩
    |> system "/sys/devices/system/cpu/online" ⟨4096, true, .error .inputOutput, .error .noDevice⟩

end FileTree
end SizedFace
