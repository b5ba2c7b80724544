import SizedFace.Bytes
import SizedFace.CharacterMap.Search

namespace SizedFace.CharacterMap

structure Group where
  first : Nat
  last : Nat
  glyph : Nat
  deriving DecidableEq

structure GroupMap where
  groups : Array Group

def lastCodePoint : Nat := 0x10FFFF

namespace Group

/-- Glyph numbers are words of 32 bits. -/
def glyphOf (g : Group) (code : Nat) : Nat := (g.glyph + (code - g.first)) % 0x100000000

/-- The code that the list of codes stops before: it leaves out the last code point, and what is
further from the first code than the glyphs of the face reach. -/
def stop (g : Group) (glyphCount : Nat) : Nat :=
  min (min (g.last + 1) lastCodePoint) (glyphCount - g.glyph + g.first)

end Group

namespace GroupMap

def read? (table : Bytes) : Option GroupMap := do
  let count ← table.u32? 12
  let words ← table.numbers? 16 4 (3 * count)
  let group (i : Nat) : Group :=
    ⟨words.getD (3 * i) 0, words.getD (3 * i + 1) 0, words.getD (3 * i + 2) 0⟩
  pure ⟨(Array.range count).map group⟩

def probe (m : GroupMap) (code i : Nat) : Option Ordering :=
  m.groups[i]?.map fun g =>
    if code < g.first then .lt else if g.last < code then .gt else .eq

def glyph? (m : GroupMap) (code : Nat) : Option Nat :=
  match search (m.probe code) 0 m.groups.size with
  | none => none
  | some i => m.groups[i]?.map fun g => g.glyphOf code

/-- The codes with their glyphs, group by group. A group that starts before the end of the one above
is listed from there. -/
def listed (glyphCount stop : Nat) : List Group → List (Nat × Nat)
  | [] => []
  | g :: rest =>
    let start := max g.first stop
    let stop := g.stop glyphCount
    (List.range' start (stop - start)).map (fun code => (code, g.glyphOf code)) ++
      listed glyphCount stop rest

def entries (m : GroupMap) (glyphCount : Nat) : List (Nat × Nat) :=
  listed glyphCount 0 m.groups.toList

end GroupMap
end SizedFace.CharacterMap
