import SizedFace.Cff.Charset
import SizedFace.Cff.Dict
import SizedFace.Cff.Index

namespace SizedFace.Cff

/-- The table, its top dictionary, and the rows that the glyphs share. -/
structure Table where
  bytes : Bytes
  /-- Whether it is of the second version, which is made for variable faces. -/
  second : Bool
  topDict : Option Bytes
  strings : Index
  subroutines : Index

namespace Table

def countWidth (t : Table) : Nat := if t.second then 4 else 2

/-- Reads the rows one after the other: names, top dictionaries, strings, subroutines. -/
def readFirst? (bytes : Bytes) : Option Table := do
  let header ← bytes.u8? 2
  let rest ← if bytes.size < 4 then none else bytes.drop? (max 4 header)
  let names ← Index.readWhole? 2 rest
  let rest ← rest.drop? (← names.size?)
  let topDicts ← Index.readWhole? 2 rest
  let rest ← rest.drop? (← topDicts.size?)
  let strings ← Index.readWhole? 2 rest
  let rest ← rest.drop? (← strings.size?)
  let subroutines ← Index.readWhole? 2 rest
  pure { bytes, second := false, topDict := topDicts.get? 0, strings, subroutines }

/-- The second version has its top dictionary in the open, and no names or strings. -/
def readSecond? (bytes : Bytes) : Option Table := do
  let header ← bytes.u8? 2
  let length ← bytes.u16? 3
  let start := max 5 header
  let topDict ← bytes.slice? start length
  let subroutines ← Index.readWhole? 4 (← bytes.drop? (start + length))
  pure { bytes, second := true, topDict := some topDict, strings := .empty, subroutines }

/-- The row at an offset, none if it leads past the table. -/
def row? (t : Table) (offset : Int) : Option Index :=
  if offset < 0 then none
  else (t.bytes.drop? offset.toNat).bind (Index.read? t.countWidth)

/-- What the top dictionary says about names: where the charset is, and how many glyphs there are. A
dictionary of a face with character identifiers says nothing. -/
def nameEntries (t : Table) : List (Option Entry) → Option (Option Int × Option Nat)
  | [] => some (none, none)
  | entry :: rest =>
    match entry with
    | some .characterIds => none
    | some (.charset offset) =>
      (t.nameEntries rest).map fun (charset, count) => (some (charset.getD offset), count)
    | some (.charstrings offset) => do
      if offset < 0 then none
      else
        let row ← (t.bytes.drop? offset.toNat).bind (Index.readWhole? 2)
        (t.nameEntries rest).map fun (charset, count) => (charset, some (count.getD row.count))
    | _ => t.nameEntries rest

def charset? (t : Table) : Option Charset := do
  let (offset, count) ← t.nameEntries (entries (← t.topDict) none)
  let offset ← offset
  if offset < 0 then none
  else
    let rule ← Charset.Rule.read? t.bytes offset.toNat
    pure ⟨← count, rule⟩

/-- A string by its number: a standard one, or one of the table. -/
def string? (t : Table) (number : Nat) : Option (List UInt8) :=
  match standardStrings[number]? with
  | some text => some text.toUTF8.toList
  | none => (t.strings.get? (number - standardStrings.size)).map Bytes.toList

end Table
end SizedFace.Cff
