import SizedFace.Backend
import SizedFace.Journal

namespace SizedFace

/-- A file of faces that are all alike, and what they answer. -/
structure Script where
  faceCount : Nat
  metrics : FaceMetrics
  glyphCount : Nat
  chars : List (Nat × Nat)
  names : List (Nat × String)
  advances : List (Nat × Binary32)
  verticalAdvances : List (Nat × Binary32)
  boxes : List (Nat × Box)
  tables : List (Tag × Bytes)

namespace Script

/-- The table that holds the bytes of the companion. -/
def companionTag : Tag := .ofChars 'c' 'm' 'p' 'n'

/-- The face of a script. Every look-up takes the first entry that fits. -/
def face (s : Script) (companion : Option FontData) : OutlineFace where
  metrics := s.metrics
  glyphCount := s.glyphCount
  mapChar code := s.chars.lookup code
  firstChar := (s.chars.map (·.1)).min?
  lastChar := (s.chars.map (·.1)).max?
  glyphName glyph := s.names.lookup glyph
  glyphByName name := (s.names.find? (·.2 = name)).map (·.1)
  advance glyph vertical := (if vertical then s.verticalAdvances else s.advances).lookup glyph
  bounds glyph := s.boxes.lookup glyph
  table tag :=
    match s.tables.lookup tag with
    | some bytes => some bytes
    | none => if tag = companionTag then companion.map (·.bytes) else none

/-- Data that begins so is rejected. -/
def rejected : List UInt8 := ['B'.toUInt8, 'A'.toUInt8, 'D'.toUInt8]

def outlines (s : Script) : OutlineBackend where
  maker := ⟨"mock", true⟩
  openFace data companion index :=
    if (List.range 3).filterMap data.bytes.get? = rejected then
      (.error (.unsupported (.described "mock rejects BAD")), [])
    else if s.faceCount ≤ index then (.error (.faceOutOfRange index s.faceCount), [])
    else (.ok (s.face companion), [])
  reread _ _ _ _ companion := s.face companion
  reread_self data companion index face opened := by
    split at opened
    · cases opened
    · split at opened
      · cases opened
      · exact Except.ok.inj opened

end Script

namespace Scripted

def shaping : ShapingBackend where
  maker := ⟨"mock-shaper", true⟩
  createHandle _ index unitsPerEm := (.ok ⟨"mock-shaper", .noted index unitsPerEm, false, []⟩, [])

def refusingShaping : ShapingBackend where
  maker := ⟨"mock-shaper", true⟩
  createHandle _ _ _ := (.error ⟨"mock-shaper", "refused"⟩, [])

def platform (variant : Variant) : PlatformBackend where
  maker := ⟨"mock-platform", true⟩
  variant := variant
  attach _ index size := (.ok ⟨variant, index, size, []⟩, [])

def refusingPlatform : PlatformBackend where
  maker := ⟨"mock-platform", true⟩
  variant := .native
  attach _ _ _ := (.error ⟨"mock-platform", "no native font"⟩, [])

/-- What a scripted backend sees when a part is given back. -/
inductive Event where
  | face | shaper | platformRelease | platformDrop
  deriving DecidableEq

def Event.name : Event → String
  | .face => "face"
  | .shaper => "shaper"
  | .platformRelease => "platform-release"
  | .platformDrop => "platform-drop"

def releaseEvent : Part → Event
  | .face => .face
  | .shaper => .shaper
  | .platform => .platformRelease

def event? : Entry → Option Event
  | .released handle => if handle.maker.counts then some (releaseEvent handle.part) else none
  | .discarded handle => if handle.maker.counts then some .platformDrop else none
  | _ => none

def events (journal : Journal) : List Event := journal.filterMap event?

@[simp] theorem events_append (a b : Journal) : events (a ++ b) = events a ++ events b :=
  List.filterMap_append ..

/-- How many of these handles are a part that the scripted backends made. -/
def count (part : Part) (handles : List Handle) : Nat :=
  handles.countP fun handle => handle.part = part && handle.maker.counts

structure Counters where
  facesOpened : Nat
  facesReleased : Nat
  shapersCreated : Nat
  shapersReleased : Nat
  platformsAttached : Nat
  platformsReleased : Nat
  platformsDropped : Nat
  events : List Event
  deriving DecidableEq

def counters (journal : Journal) : Counters where
  facesOpened := count .face journal.acquisitions
  facesReleased := count .face journal.releases
  shapersCreated := count .shaper journal.acquisitions
  shapersReleased := count .shaper journal.releases
  platformsAttached := count .platform journal.acquisitions
  platformsReleased := count .platform journal.releases
  platformsDropped := count .platform journal.discards
  events := events journal

end Scripted
end SizedFace
