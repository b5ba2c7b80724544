import SizedFace.CharacterMap.Groups
import SizedFace.CharacterMap.Segments
import SizedFace.Sfnt.Headers

namespace SizedFace

open CharacterMap Sfnt

inductive CharacterMap.Subtable where
  | segments (map : SegmentMap)
  | groups (map : GroupMap)

structure CharacterMap where
  subtable : CharacterMap.Subtable
  /-- Whether the codes are those of a symbol font. -/
  symbol : Bool
  /-- How many glyphs a list of codes can reach. -/
  glyphCount : Nat

namespace CharacterMap

/-- What a subtable covers, least wanted first. -/
inductive Reach where
  | basic | full | symbol
  deriving DecidableEq

def Reach.rank : Reach → Nat
  | .basic => 1
  | .full => 2
  | .symbol => 3

/-- What a subtable of a platform and an encoding covers, none if it maps no characters. -/
def reach? (platform encoding : Nat) : Option Reach :=
  if platform = 3 ∧ encoding = 0 then some .symbol
  else if platform = 3 ∧ encoding = 10 ∨ platform = 0 ∧ encoding = 4 then some .full
  else if platform = 0 ∧ encoding = 5 then none
  else if platform = 0 ∨ platform = 2 ∨ platform = 3 ∧ encoding = 1 then some .basic
  else none

def Subtable.read? (table : Bytes) (offset : Nat) : Option Subtable := do
  if offset = 0 then none
  else
    let bytes ← table.drop? offset
    match ← bytes.u16? 0 with
    | 4 => (SegmentMap.read? bytes).map .segments
    | 12 => (GroupMap.read? bytes).map .groups
    | _ => none

/-- Goes through the records from the last to the first, and takes a readable subtable whenever it
covers more than the one taken before. -/
def select (table : Bytes) : List (Nat × Nat × Nat) → Option (Reach × Subtable)
  | [] => none
  | (platform, encoding, offset) :: rest =>
    let taken := select table rest
    match reach? platform encoding with
    | none => taken
    | some reach =>
      if (taken.map (·.1.rank)).getD 0 < reach.rank then
        match Subtable.read? table offset with
        | some subtable => some (reach, subtable)
        | none => taken
      else taken

/-- The records of a table of subtables: platform, encoding and place. -/
def records? (table : Bytes) : Option (List (Nat × Nat × Nat)) := do
  let count ← table.u16? 2
  if table.size < 4 + 8 * count then none
  else (List.range count).mapM fun i => do
    pure (← table.u16? (4 + 8 * i), ← table.u16? (6 + 8 * i), ← table.u32? (8 + 8 * i))

/-- The map of a face, none if it has no subtable that can be used. -/
def ofDirectory? (d : Directory) : Option CharacterMap := do
  let table ← d.table? .cmap
  let (reach, subtable) ← select table (← records? table)
  pure ⟨subtable, reach = .symbol, d.glyphCount?.getD 0xFFFF⟩

def subtableGlyph? (m : CharacterMap) (code : Nat) : Option Nat :=
  match m.subtable with
  | .segments map => map.glyph? code
  | .groups map => map.glyph? code

/-- The glyph of a code. In a symbol font the codes below 256 also stand for those from `F000`
on. -/
def glyph? (m : CharacterMap) (code : Nat) : Option Nat :=
  match m.subtableGlyph? code with
  | some glyph => some glyph
  | none => if m.symbol && code ≤ 0xFF then m.subtableGlyph? (code + 0xF000) else none

/-- All codes with a glyph other than `.notdef`, as the subtable lists them. -/
def entries (m : CharacterMap) : List (Nat × Nat) :=
  (match m.subtable with
    | .segments map => map.entries
    | .groups map => map.entries m.glyphCount).filter fun entry => entry.2 ≠ notdef

def codes (m : CharacterMap) : List Nat := m.entries.map (·.1)

end CharacterMap
end SizedFace
