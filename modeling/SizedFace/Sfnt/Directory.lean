import SizedFace.Bytes
import SizedFace.Fault

namespace SizedFace.Sfnt

structure TableRecord where
  tag : Tag
  offset : Nat
  length : Nat
  deriving DecidableEq

/-- The tables of one face. Their ranges are counted from the start of the file. -/
structure Directory where
  file : Bytes
  records : List TableRecord

/-- The versions that a face can begin with: TrueType outlines, compact outlines, and the older name
of the former. -/
def versions : List Nat := [0x00010000, 0x4F54544F, 0x74727565]

def readRecord (file : Bytes) (place : Nat) : Option TableRecord := do
  let tag ← file.u32? place
  let offset ← file.u32? (place + 8)
  let length ← file.u32? (place + 12)
  pure ⟨.ofNat tag, offset, length⟩

namespace Directory

/-- Reads the directory at a place of the file. It must lie inside the file as a whole, and only
then counts its version. -/
def read (file : Bytes) (start : Nat) : Except ReadFault Directory :=
  match file.u32? start, file.u16? (start + 4) with
  | some version, some count =>
    if file.size < start + 12 + 16 * count then .error .outOfBounds
    else if version ∈ versions then
      .ok ⟨file, (List.range count).filterMap fun i => readRecord file (start + 12 + 16 * i)⟩
    else .error (.version version)
  | _, _ => .error .outOfBounds

def ascending : List TableRecord → Bool
  | a :: b :: rest => a.tag.toNat ≤ b.tag.toNat && ascending (b :: rest)
  | _ => true

/-- The record that answers for a tag: the last one of an ascending directory, and otherwise the
first one. -/
def record? (directory : Directory) (tag : Tag) : Option TableRecord :=
  let own (r : TableRecord) : Bool := r.tag = tag
  if ascending directory.records then directory.records.reverse.find? own
  else directory.records.find? own

/-- The bytes of a table. A record that starts nowhere or ends past the file gives none. -/
def table? (directory : Directory) (tag : Tag) : Option Bytes :=
  match directory.record? tag with
  | none => none
  | some r => if r.offset = 0 then none else directory.file.slice? r.offset r.length

theorem mem_of_record?_eq_some {directory : Directory} {tag : Tag} {r : TableRecord}
    (h : directory.record? tag = some r) : r ∈ directory.records ∧ r.tag = tag := by
  unfold record? at h
  split at h
  · exact ⟨List.mem_reverse.1 (List.mem_of_find?_eq_some h), by simpa using List.find?_some h⟩
  · exact ⟨List.mem_of_find?_eq_some h, by simpa using List.find?_some h⟩

theorem table?_eq_some {directory : Directory} {tag : Tag} {bytes : Bytes} :
    directory.table? tag = some bytes ↔
      ∃ r, directory.record? tag = some r ∧ r.offset ≠ 0 ∧
        r.offset + r.length ≤ directory.file.size ∧
        bytes = directory.file.slice r.offset r.length := by
  unfold table?
  cases directory.record? tag with
  | none => simp
  | some r =>
    by_cases h : r.offset = 0
    · simp [h]
    · simp [h, Bytes.slice?_eq_some]

def require (directory : Directory) (tag : Tag) : Except ReadFault Bytes :=
  match directory.table? tag with
  | some bytes => .ok bytes
  | none => .error (.missing tag)

end Directory

/-- A file holds one face, or the places of several. -/
inductive FontFile where
  | single (face : Directory)
  | collection (file : Bytes) (places : List Nat)

/-- The places of the faces of a collection. Its second version ends in the whereabouts of a
signature, which must be there too. -/
def readCollection (file : Bytes) : Option (List Nat) := do
  let tag ← file.u32? 0
  let major ← file.u16? 4
  let count ← file.u32? 8
  if tag = Tag.ttcf.toNat ∧ 12 + 4 * count + (if major = 2 then 12 else 0) ≤ file.size then
    let places ← file.numbers? 12 4 count
    pure places.toList
  else none

namespace FontFile

/-- Reads a file. One that is no collection, or a broken one, is read as a single face. -/
def read (file : Bytes) : Except ReadFault FontFile :=
  match readCollection file with
  | some places => .ok (.collection file places)
  | none =>
    match Directory.read file 0 with
    | .ok face => .ok (.single face)
    | .error fault => .error fault

def faceCount : FontFile → Nat
  | .single _ => 1
  | .collection _ places => places.length

/-- The face at an index; only the first of a single face. -/
def face (file : FontFile) (index : Nat) : Except ReadFault Directory :=
  match file with
  | .single face => if index = 0 then .ok face else .error .outOfBounds
  | .collection file places =>
    match places[index]? with
    | some place => Directory.read file place
    | none => .error .outOfBounds

end FontFile
end SizedFace.Sfnt
