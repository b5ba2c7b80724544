import SizedFace.Bytes
import SizedFace.Cff.Standard

namespace SizedFace.Cff

inductive Charset.Rule where
  /-- The first strings, in order. -/
  | plain
  /-- A predefined row of strings. -/
  | row (strings : Array Nat)
  /-- A stored row of strings, for the glyphs from 1 on. -/
  | stored (strings : Array Nat)
  /-- Ranges of consecutive strings, for the glyphs from 1 on: the first string and how many
  follow. -/
  | ranges (ranges : List (Nat × Nat))

structure Charset where
  glyphCount : Nat
  rule : Charset.Rule

namespace Charset

def lastPlain : Nat := 228

/-- Reads the rule at a place of the table; the first three places stand for predefined ones. -/
def Rule.read? (table : Bytes) (place : Nat) : Option Rule :=
  match place with
  | 0 => some .plain
  | 1 => some (.row expertSet)
  | 2 => some (.row expertSubset)
  | place => do
    let bytes ← table.drop? place
    match ← bytes.u8? 0 with
    | 0 => pure (.stored (bytes.u16sFrom 1))
    | 1 =>
      let words ← bytes.numbers? 1 3 ((bytes.size - 1) / 3)
      pure (.ranges (words.toList.map fun n => (n / 0x100, n % 0x100)))
    | 2 =>
      let words ← bytes.numbers? 1 4 ((bytes.size - 1) / 4)
      pure (.ranges (words.toList.map fun n => (n / 0x10000, n % 0x10000)))
    | _ => none

def inRanges (distance : Nat) : List (Nat × Nat) → Option Nat
  | [] => none
  | (first, left) :: rest =>
    if distance ≤ left then some ((first + distance) % 0x10000)
    else inRanges (distance - left - 1) rest

def string? (c : Charset) (glyph : Nat) : Option Nat :=
  if c.glyphCount ≤ glyph then none
  else match c.rule with
    | .plain => if glyph ≤ lastPlain then some glyph else none
    | .row strings => strings[glyph]?
    | .stored strings => if glyph = 0 then some 0 else strings[glyph - 1]?
    | .ranges ranges => if glyph = 0 then some 0 else inRanges (glyph - 1) ranges

/-- The glyphs from 0 on with their strings, up to the first one without. -/
def entriesFrom (c : Charset) (glyph : Nat) : Nat → List (Nat × Nat)
  | 0 => []
  | n + 1 =>
    match c.string? glyph with
    | none => []
    | some string => (glyph, string) :: entriesFrom c (glyph + 1) n

def entries (c : Charset) : List (Nat × Nat) := c.entriesFrom 0 c.glyphCount

def glyph? (c : Charset) (string : Nat) : Option Nat :=
  (c.entries.find? fun entry => entry.2 = string).map (·.1)

end Charset
end SizedFace.Cff
