import SizedFace.Backend
import SizedFace.Cff.Drawing
import SizedFace.CharacterMap.Basic
import SizedFace.GlyphNames.Basic
import SizedFace.Sfnt.Glyphs

namespace SizedFace.Sfnt

structure Face where
  directory : Directory
  companion : Option Directory
  glyphCount : Nat
  metrics : FaceMetrics

def faceCount (data : Bytes) : Except LoadFault Nat :=
  match FontFile.read data with
  | .ok file => .ok file.faceCount
  | .error fault => .error (.unsupported (.unreadable fault))

def directory? (data : Bytes) (index : Nat) : Option Directory :=
  match FontFile.read data with
  | .error _ => none
  | .ok file => if file.faceCount ≤ index then none else (file.face index).toOption

/-- The directory of a face and its header, when both can be read and the header has a grid. -/
def openDirectory (data : Bytes) (index : Nat) : Except LoadFault (Directory × Head) :=
  match FontFile.read data with
  | .error fault => .error (.unsupported (.unreadable fault))
  | .ok file =>
    if file.faceCount ≤ index then .error (.faceOutOfRange index file.faceCount)
    else
      match file.face index with
      | .error fault => .error (.unsupported (.unreadable fault))
      | .ok directory =>
        match directory.head with
        | .error fault => .error (.unsupported (.unusableHead fault))
        | .ok head =>
          if head.unitsPerEm = 0 then .error (.metrics .zeroUnitsPerEm) else .ok (directory, head)

/-- A companion supplies tables only if it is a single face. -/
def companionFace (data : Option Bytes) : Option Directory × List Notice :=
  match data with
  | none => (none, [])
  | some data =>
    match Directory.read data 0 with
    | .ok directory => (some directory, [])
    | .error fault => (none, [.companionIgnored fault])

namespace Face

def ofData (data : Bytes) (companion : Option Bytes) (index : Nat) :
    Except LoadFault Face × List Notice :=
  match openDirectory data index with
  | .error fault => (.error fault, [])
  | .ok (directory, head) =>
    let metrics := directory.metrics head
    let missing : List Notice :=
      if metrics.capHeight.isNone || metrics.xHeight.isNone then [.heightsMissing index] else []
    let (companion, ignored) := companionFace companion
    let count := (faceCount data).toOption.getD 0
    (.ok ⟨directory, companion, directory.glyphCount, metrics⟩,
      missing ++ ignored ++ [.faceOpened index count directory.glyphCount metrics.unitsPerEm])

def characterMap? (face : Face) : Option CharacterMap := CharacterMap.ofDirectory? face.directory

/-- The glyph of a character; `.notdef` is no answer. -/
def mapChar (face : Face) (code : Nat) : Option Nat := do
  let glyph ← (← face.characterMap?).glyph? code
  if glyph = notdef then none else pure glyph

def firstChar (face : Face) : Option Nat := face.characterMap?.bind fun map => map.codes.min?

def lastChar (face : Face) : Option Nat := face.characterMap?.bind fun map => map.codes.max?

def glyphName (face : Face) (glyph : Nat) : Option String :=
  if face.glyphCount ≤ glyph then none
  else (GlyphNames.ofDirectory? face.directory).bind fun names => names.name? glyph

def glyphByName (face : Face) (name : String) : Option Nat :=
  if name.isEmpty then none
  else do
    let glyph ← (← GlyphNames.ofDirectory? face.directory).glyph? name
    if face.glyphCount ≤ glyph then none else pure glyph

/-- The stored advance as it comes out of scaling in fixed point, which keeps sixteen bits before
the point: from `2 ^ 15` on it wraps to a negative one. -/
def scaledAdvance (stored : Nat) : Binary32 := .ofFixed (Fixed.ofInt stored) 16

/-- The advance along the line, zero without a table; or down the column, the height of the line
without a table. -/
def advance (face : Face) (glyph : Nat) (vertical : Bool) : Option Binary32 :=
  if face.glyphCount ≤ glyph then none
  else if vertical then
    match face.directory.vertical?.bind fun table => table.advance? glyph with
    | some stored => some (.ofNat stored)
    | none => some (face.metrics.ascent - face.metrics.descent)
  else
    some (scaledAdvance ((face.directory.horizontal?.bind fun t => t.advance? glyph).getD 0))

/-- Whether the stored boxes of the face count: not where its outlines vary, and not where it has
compact outlines as well. -/
def keepsBoxes (face : Face) : Bool :=
  !face.directory.varies &&
    ((face.directory.table? .cff).bind Cff.Table.readFirst?).isNone &&
    ((face.directory.table? .cff2).bind Cff.Table.readSecond?).isNone

def storedBox? (face : Face) (glyph : Nat) : Option Box :=
  if !face.keepsBoxes then none
  else (GlyphTable.ofDirectory? face.directory).bind fun table => table.box? glyph

/-- The compact outlines of the face, of the second version if it has them. -/
def compact? (face : Face) : Option Cff.Font := do
  let head ← face.directory.head.toOption
  let font? (table : Option Cff.Table) : Option Cff.Font :=
    table.bind fun table => Cff.Font.ofTable? table head.unitsPerEm
  match font? ((face.directory.table? .cff2).bind Cff.Table.readSecond?) with
  | some font => some font
  | none => font? ((face.directory.table? .cff).bind Cff.Table.readFirst?)

/-- The outline of a glyph in font units: quadratic where the face has such outlines and advances
for them, else compact. -/
def outline? (face : Face) (glyph : Nat) : Option Outline := do
  let advances ← face.directory.horizontal?
  match GlyphTable.ofDirectory? face.directory with
  | some table =>
    let system := face.directory.systemMetrics?
    let ascender := (system.map (·.typoAscender)).getD 0
    let descender := (system.map (·.typoDescender)).getD 0
    table.outline? ⟨advances, ascender, descender⟩ glyph
  | none => (← face.compact?).outline? glyph

/-- The stored box of a glyph, or else the box around its outline. -/
def bounds (face : Face) (glyph : Nat) : Option Box :=
  if face.glyphCount ≤ glyph then none
  else
    match face.storedBox? glyph with
    | some box => some box
    | none => (face.outline? glyph).bind Outline.controlBox

/-- The bytes of a table, the companion's where the face itself has none. -/
def table (face : Face) (tag : Tag) : Option Bytes :=
  match face.directory.table? tag with
  | some bytes => some bytes
  | none => face.companion.bind fun companion => companion.table? tag

def toOutlineFace (face : Face) : OutlineFace where
  metrics := face.metrics
  glyphCount := face.glyphCount
  mapChar := face.mapChar
  firstChar := face.firstChar
  lastChar := face.lastChar
  glyphName := face.glyphName
  glyphByName := face.glyphByName
  advance := face.advance
  bounds := face.bounds
  table := face.table

end Face

/-- A face whose data holds no such face any more: it keeps its metrics, and has no tables but those
of its companion. -/
def lostFace (metrics : FaceMetrics) (glyphCount : Nat) (companion : Option Directory) :
    OutlineFace where
  metrics := metrics
  glyphCount := glyphCount
  mapChar _ := none
  firstChar := none
  lastChar := none
  glyphName _ := none
  glyphByName _ := none
  advance _ _ := none
  bounds _ := none
  table tag := companion.bind fun companion => companion.table? tag

/-- What an open face answers now. Its metrics, its number of glyphs and whether its companion
counts were settled when it was opened; all else is read again. -/
def reread (face : OutlineFace) (keeps : Bool) (data : Bytes) (companion : Option Bytes)
    (index : Nat) : OutlineFace :=
  let companion := if keeps then (companionFace companion).1 else none
  match directory? data index with
  | some directory => Face.toOutlineFace ⟨directory, companion, face.glyphCount, face.metrics⟩
  | none => lostFace face.metrics face.glyphCount companion

theorem directory?_of_openDirectory {data : Bytes} {index : Nat} {opened : Directory × Head}
    (read : openDirectory data index = .ok opened) : directory? data index = some opened.1 := by
  unfold openDirectory at read
  unfold directory?
  cases file : FontFile.read data with
  | error fault =>
    rw [file] at read
    cases read
  | ok file' =>
    rw [file] at read
    simp only at read ⊢
    split at read
    · cases read
    · rename_i inside
      rw [if_neg inside]
      cases found : file'.face index with
      | error fault =>
        rw [found] at read
        cases read
      | ok directory =>
        rw [found] at read
        simp only at read
        split at read
        · cases read
        · split at read
          · cases read
          · cases read
            rfl

/-- Data that is what it was at the opening is read as it was. -/
theorem reread_ofData {data : Bytes} {companion : Option Bytes} {index : Nat} {face : Face}
    (opened : (Face.ofData data companion index).1 = .ok face) :
    reread face.toOutlineFace (companionFace companion).1.isSome data companion index =
      face.toOutlineFace := by
  unfold Face.ofData at opened
  cases read : openDirectory data index with
  | error fault =>
    rw [read] at opened
    cases opened
  | ok found =>
    rw [read] at opened
    obtain rfl := Except.ok.inj opened
    unfold reread
    rw [directory?_of_openDirectory read]
    cases (companionFace companion).1 <;> simp [Face.toOutlineFace]

def outlines : OutlineBackend where
  maker := ⟨"skrifa", false⟩
  openFace data companion index :=
    let (opened, said) := Face.ofData data.bytes (companion.map (·.bytes)) index
    (opened.map Face.toOutlineFace, said)
  reread face companion index now companionNow :=
    reread face (companionFace (companion.map (·.bytes))).1.isSome now.bytes
      (companionNow.map (·.bytes)) index
  reread_self data companion index face opened := by
    cases read : (Face.ofData data.bytes (companion.map (·.bytes)) index).1 with
    | error fault => simp [read, Except.map] at opened
    | ok face' =>
      simp only [read, Except.map, Except.ok.injEq] at opened
      subst opened
      exact reread_ofData read

end SizedFace.Sfnt
