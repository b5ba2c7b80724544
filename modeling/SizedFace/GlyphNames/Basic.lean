import SizedFace.Cff.Table
import SizedFace.GlyphNames.Macintosh
import SizedFace.Sfnt.Headers
import SizedFace.Text.Utf8

namespace SizedFace

open Sfnt

/-- Where the names of a face come from. -/
inductive GlyphNames where
  /-- The PostScript table, for so many glyphs. -/
  | post (glyphCount : Nat) (table : Bytes)
  | charset (table : Cff.Table) (charset : Cff.Charset)

namespace GlyphNames

/-- Versions of the PostScript table that name glyphs: by the known set alone, or with names of
their own. -/
def knownVersion : Nat := 0x00010000
def ownVersion : Nat := 0x00020000

def postCount (table : Bytes) : Nat :=
  match table.u32? 0 with
  | some version =>
    if version = knownVersion then macintosh.size
    else if version = ownVersion then (table.u16? 32).getD 0
    else 0
  | none => 0

def ofDirectory? (d : Directory) : Option GlyphNames :=
  match d.postscript? with
  | some (_, table) => if postCount table ≠ 0 then some (.post d.glyphCount table) else fromCharset
  | none => fromCharset
where
  fromCharset : Option GlyphNames := do
    let table ← Cff.Table.readFirst? (← d.table? .cff)
    pure (.charset table (← table.charset?))

/-- Passes over `count` strings, each behind its length, to the place of the next. -/
def skipStrings (table : Bytes) (place : Nat) : Nat → Option Nat
  | 0 => some place
  | count + 1 => do
    let length ← table.u8? place
    skipStrings table (place + length + 1) count

/-- A string behind its length; it must be ASCII. -/
def postString? (table : Bytes) (place : Nat) : Option (List UInt8) := do
  let length ← table.u8? place
  let text ← table.slice? (place + 1) length
  if text.toList.all (· < 0x80) then some text.toList else none

def postName? (table : Bytes) (glyph : Nat) : Option (List UInt8) :=
  if table.u32? 0 = some knownVersion then macintosh[glyph]?.map (·.toUTF8.toList)
  else if table.u32? 0 = some ownVersion then do
    let count ← table.u16? 32
    if count ≤ glyph then none
    else
      let number ← table.u16? (34 + 2 * glyph)
      match macintosh[number]? with
      | some name => pure name.toUTF8.toList
      | none => postString? table (← skipStrings table (34 + 2 * count) (number - macintosh.size))
  else none

/-- A name is cut after this many bytes. -/
def maxLength : Nat := 63

/-- A name from its bytes: they must be text as a whole and after the cut, and not be empty. -/
def ofBytes? (bytes : List UInt8) : Option String := do
  let _ ← Text.decode? bytes
  let name ← Text.decode? (bytes.take maxLength)
  if name.isEmpty then none else some name

def glyphCount : GlyphNames → Nat
  | .post count _ => count
  | .charset _ set => set.glyphCount

def name? (names : GlyphNames) (glyph : Nat) : Option String :=
  if names.glyphCount ≤ glyph then none
  else match names with
    | .post _ table => (postName? table glyph).bind ofBytes?
    | .charset table set =>
      ((set.string? glyph).bind fun string => table.string? string).bind ofBytes?

/-- All glyphs in order, each with its name if it has one. The charset lists no glyph after the
first it does not name. -/
def entries : GlyphNames → List (Nat × Option String)
  | .post count table =>
    (List.range count).map fun glyph => (glyph, (postName? table glyph).bind ofBytes?)
  | .charset table set =>
    set.entries.map fun (glyph, string) => (glyph, (table.string? string).bind ofBytes?)

/-- The first glyph of a name. -/
def glyph? (names : GlyphNames) (name : String) : Option Nat :=
  (names.entries.find? fun entry => entry.2 = some name).map (·.1)

end GlyphNames
end SizedFace
