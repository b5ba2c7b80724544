import SizedFace.Instance.Opening
import SizedFace.Instance.Query
import SizedFace.Scripted
import SizedFace.Session.View
import SizedFace.Sfnt.Face
import SizedFace.Shaping.Backends

namespace SizedFace

/-- The choices an opening leaves to its caller. -/
structure Choice where
  /-- The configuration of the environment when absent. -/
  config : Option LoadConfig
  companion : Option Path
  outline : OutlineBackend
  shaping : ShapingBackend
  platform : Option PlatformBackend

/-- Files read by themselves, shaped by the engine, without a platform. -/
def Choice.standard : Choice := ⟨none, none, Sfnt.outlines, Shaping.engine, none⟩

def Choice.options (c : Choice) (environment : LoadConfig) : Options :=
  ⟨c.config.getD environment, c.companion, c.outline, c.shaping, c.platform⟩

/-- What an instance maps that was opened from a path. -/
def Choice.view (c : Choice) (tree : FileTree) (path : Path) (i : Instance) : View where
  data := tree.mappedAt? path i.data
  companion := c.companion.bind fun path => i.companion.bind (tree.mappedAt? path)
  reread := c.outline.reread i.face.value i.companion i.faceIndex

inductive Step where
  | openInstance (slot : String) (choice : Choice) (path : Path) (faceIndex : Nat) (size : Binary32)
  | ask (slot : String) (query : Query)
  | setVertical (slot : String) (vertical : Bool)
  | destroy (slot : String)
  | drop (slot : String)
  /-- Puts a new file in the place of what is there. -/
  | write (path : Path) (content : Bytes)
  /-- Writes a file in place, so that those who map it see the change. Past the end of the content
  they see `beyond`: zeros to the end of the page, and further on whatever a process survives. -/
  | overwrite (path : Path) (content beyond : Bytes)
  | remove (path : Path)
  | count

def Step.slot? : Step → Option String
  | .openInstance slot .. | .ask slot _ | .setVertical slot _ => some slot
  | .destroy slot | .drop slot => some slot
  | .write .. | .overwrite .. | .remove _ | .count => none

inductive Outcome where
  | answered (answer : Answer)
  | failed (fault : OpenFault)
  /-- The slot holds nothing. -/
  | vacant
  | direction (vertical : Bool)
  | destroyed
  | dropped
  | written
  | removed (found : Bool)
  | counted (counters : Scripted.Counters)

structure Session where
  tree : FileTree
  /-- What the environment configures, and what its reading says; the first opening hears it. -/
  config : LoadConfig
  unheard : List Notice
  slots : List (String × Instance)
  /-- For each slot that holds an instance, the files it maps. -/
  views : List (String × View)
  openings : Nat
  journal : Journal

namespace Session

def start (tree : FileTree) (environment : Environment) : Session :=
  let (config, said) := environment.loadConfig
  ⟨tree, config, said, [], [], 0, []⟩

def slot? (s : Session) (slot : String) : Option Instance := s.slots.lookup slot

def view? (s : Session) (slot : String) : Option View := s.views.lookup slot

def clear (s : Session) (slot : String) : Session :=
  { s with slots := s.slots.filter fun entry => entry.1 ≠ slot }

def put (s : Session) (slot : String) (i : Instance) : Session :=
  { s with slots := (slot, i) :: (s.clear slot).slots }

def forget (s : Session) (slot : String) : Session :=
  { s with views := s.views.filter fun entry => entry.1 ≠ slot }

def watch (s : Session) (slot : String) (v : View) : Session :=
  { s with views := (slot, v) :: (s.forget slot).views }

def record (s : Session) (entries : Journal) : Session := { s with journal := s.journal ++ entries }

def vacate (s : Session) (slot : String) : Session :=
  match s.slot? slot with
  | some i => ((s.clear slot).record i.teardown).forget slot
  | none => s

/-- Opens an instance in a vacant slot; it stays vacant when that fails. -/
def openVacant (s : Session) (slot : String) (choice : Choice) (path : Path) (faceIndex : Nat)
    (size : Binary32) : Session × Outcome :=
  let (result, entries) :=
    (choice.options s.config).openInstance s.tree ⟨path, faceIndex, size, s.openings⟩
  let s := { s.record (Journal.told s.unheard ++ entries) with
    unheard := [], openings := s.openings + 1 }
  match result with
  | .ok i => ((s.put slot i).watch slot (choice.view s.tree path i), .answered (i.answer .summary))
  | .error fault => (s, .failed fault)

/-- What the instances map at a place stays as it is from now on. -/
def detach (s : Session) (place : Place) : Session :=
  { s with views := s.views.map fun entry => (entry.1, entry.2.detach place) }

/-- What is in a slot, once the file at a place has come to hold other bytes. -/
def shown (s : Session) (place : Place) (bytes : Bytes) (slot : String) (i : Instance) : Instance :=
  match s.view? slot with
  | some v => i.reread v place bytes
  | none => i

/-- The instances that map the file at a place see other bytes. -/
def overlay (s : Session) (place : Place) (bytes : Bytes) : Session :=
  { s with slots := s.slots.map fun entry => (entry.1, s.shown place bytes entry.1 entry.2) }

/-- One step, and what comes of it. An opening first tears down what its slot holds. -/
def advance (s : Session) : Step → Session × Outcome
  | .openInstance slot choice path faceIndex size =>
    (s.vacate slot).openVacant slot choice path faceIndex size
  | .ask slot query =>
    match s.slot? slot with
    | some i => (s, .answered (i.answer query))
    | none => (s, .vacant)
  | .setVertical slot vertical =>
    match s.slot? slot with
    | some i => (s.put slot (i.setVertical vertical), .direction (i.setVertical vertical).vertical)
    | none => (s, .vacant)
  | .destroy slot =>
    match s.slot? slot with
    | some _ => (s.vacate slot, .destroyed)
    | none => (s, .vacant)
  | .drop slot =>
    match s.slot? slot with
    | some _ => (s.vacate slot, .dropped)
    | none => (s, .vacant)
  | .write path content =>
    ({ s.detach (FileTree.placeOf path) with tree := s.tree.write path content }, .written)
  | .overwrite path content beyond =>
    ({ s.overlay (FileTree.placeOf path) (content.append beyond) with
        tree := s.tree.write path content }, .written)
  | .remove path =>
    let (tree, found) := s.tree.remove path
    ({ (if found then s.detach (FileTree.placeOf path) else s) with tree }, .removed found)
  | .count => (s, .counted (Scripted.counters s.journal))

def run (s : Session) : List Step → Session × List Outcome
  | [] => (s, [])
  | step :: rest =>
    let (next, outcome) := s.advance step
    let (last, outcomes) := next.run rest
    (last, outcome :: outcomes)

/-- Tears down what is left, in the order of the names of the slots. -/
def finish (s : Session) : Session :=
  ((s.slots.map (·.1)).mergeSort fun a b => a ≤ b).foldl vacate s

end Session
end SizedFace
