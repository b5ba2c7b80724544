import SizedFace.Bytes
import SizedFace.CharacterMap.Search

namespace SizedFace.CharacterMap

structure Segment where
  first : Nat
  last : Nat
  delta : Nat
  /-- How far the glyphs of the segment are from this very field, in bytes; zero for none. -/
  offset : Nat
  deriving DecidableEq

structure SegmentMap where
  segments : Array Segment
  glyphs : Array Nat

namespace SegmentMap

/-- Reads the map; the four rows of the segments must lie inside it, and all that follows is the
array of glyphs. -/
def read? (table : Bytes) : Option SegmentMap := do
  let count := (← table.u16? 6) / 2
  let lasts ← table.numbers? 14 2 count
  let firsts ← table.numbers? (16 + 2 * count) 2 count
  let deltas ← table.numbers? (16 + 4 * count) 2 count
  let offsets ← table.numbers? (16 + 6 * count) 2 count
  let segment (i : Nat) : Segment :=
    ⟨firsts.getD i 0, lasts.getD i 0, deltas.getD i 0, offsets.getD i 0⟩
  pure ⟨(Array.range count).map segment, table.u16sFrom (16 + 8 * count)⟩

/-- The glyph of a code under segment `i`, whose codes are counted from `start`. A place before the
array counts as its beginning, and glyph 0 of the array stands for no glyph. -/
def lookup (m : SegmentMap) (i start code : Nat) : Option Nat :=
  match m.segments[i]? with
  | none => none
  | some s =>
    if s.offset = 0 then some ((code + s.delta) % 0x10000)
    else
      match m.glyphs[s.offset / 2 + (code - start) - (m.segments.size - i)]? with
      | none => none
      | some glyph => if glyph = 0 then none else some ((glyph + s.delta) % 0x10000)

def probe (m : SegmentMap) (code i : Nat) : Option Ordering :=
  m.segments[i]?.map fun s =>
    if code < s.first then .lt else if s.last < code then .gt else .eq

def glyph? (m : SegmentMap) (code : Nat) : Option Nat :=
  if 0x10000 ≤ code then none
  else
    match search (m.probe code) 0 m.segments.size with
    | none => none
    | some i =>
      match m.segments[i]? with
      | none => none
      | some s => m.lookup i s.first code

/-- The codes of each segment when all are listed: none before the end of the segments above, so
that overlaps are listed once. -/
def runs (stop : Nat) : List Segment → List (Nat × Nat)
  | [] => []
  | s :: rest =>
    let start := max s.first stop
    let stop := max (s.last + 1) stop
    (start, stop) :: runs stop rest

/-- The codes with their glyphs, segment by segment. A segment that starts late looks its codes up
from there. -/
def entries (m : SegmentMap) : List (Nat × Nat) :=
  (runs 0 m.segments.toList).zipIdx.flatMap fun ((start, stop), i) =>
    (List.range' start (stop - start)).filterMap fun code =>
      (m.lookup i start code).map fun glyph => (code, glyph)

end SegmentMap
end SizedFace.CharacterMap
