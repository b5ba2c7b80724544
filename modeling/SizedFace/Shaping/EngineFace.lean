import SizedFace.Bytes
import SizedFace.Tag

namespace SizedFace.Shaping

def singleVersions : List Nat := [0x00010000, 0x4F54544F, 0x74727565, 0x74797031]

/-- A directory is sound when all its records lie inside the file. -/
def isSound (file : Bytes) (start : Nat) : Bool :=
  match file.u16? (start + 4) with
  | some count => start + 12 + 16 * count ≤ file.size
  | none => false

/-- Where the engine looks for a face. -/
structure Site where
  /-- The place of the directory, none when there is no such face. -/
  start : Option Nat
  /-- Whether the file had to be copied, so that its broken faces could be struck out. -/
  copied : Bool

def Site.nowhere : Site := ⟨none, false⟩

/-- At most this many faces of a collection are struck out. -/
def maxStruckOut : Nat := 32

/-- The face of a collection. A place of zero is no face. -/
def collectionSite (file : Bytes) (places : List Nat) (index : Nat) : Site :=
  let broken (place : Nat) : Bool := place ≠ 0 && !isSound file place
  let struckOut := places.countP broken
  if maxStruckOut < struckOut then .nowhere
  else
    let start := places[index]?.bind fun place =>
      if place = 0 || broken place then none else some place
    ⟨start, struckOut ≠ 0⟩

def site (file : Bytes) (index : Nat) : Site :=
  match file.u32? 0 with
  | none => .nowhere
  | some version =>
    if version ∈ singleVersions then
      if isSound file 0 then ⟨some 0, false⟩ else .nowhere
    else if version = Tag.ttcf.toNat then
      match file.u16? 4, file.u32? 8 with
      | some major, some count =>
        if major = 1 ∨ major = 2 then
          match file.numbers? 12 4 count with
          | some places => collectionSite file places.toList index
          | none => .nowhere
        else .nowhere
      | _, _ => .nowhere
    else .nowhere

/-- Searches the records `low ≤ i < high` of a directory for a tag by halving, the lower middle
first. -/
def findRecord (file : Bytes) (start : Nat) (tag : Tag) (low high : Nat) : Option Nat :=
  if low < high then
    let middle := (low + high - 1) / 2
    match file.u32? (start + 12 + 16 * middle) with
    | none => none
    | some own =>
      if tag.toNat < own then findRecord file start tag low middle
      else if own < tag.toNat then findRecord file start tag (middle + 1) high
      else some middle
  else none
termination_by high - low
decreasing_by all_goals omega

/-- The bytes of a table, cut off at the end of the file; empty without a record. -/
def tableBytes (file : Bytes) (start : Nat) (tag : Tag) : Bytes :=
  let found : Option Bytes := do
    let i ← findRecord file start tag 0 (← file.u16? (start + 4))
    let offset ← file.u32? (start + 20 + 16 * i)
    let length ← file.u32? (start + 24 + 16 * i)
    pure (file.slice offset (min length (file.size - offset)))
  found.getD .empty

/-- The number of glyphs in a profile table: of the full version with all its fields, or of the
short one. -/
def countGlyphs (table : Bytes) : Nat :=
  match table.u32? 0, table.u16? 4 with
  | some version, some count =>
    if version / 0x10000 = 1 ∧ 32 ≤ table.size ∨ version = 0x00005000 then count else 0
  | _, _ => 0

/-- The number of glyphs at a site, zero when there is no face. -/
def Site.glyphCount (s : Site) (file : Bytes) : Nat :=
  match s.start with
  | some start => countGlyphs (tableBytes file start .maxp)
  | none => 0

end SizedFace.Shaping
