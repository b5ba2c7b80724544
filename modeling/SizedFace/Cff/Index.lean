import SizedFace.Bytes

namespace SizedFace.Cff

structure Index where
  count : Nat
  /-- How many bytes count the strings: two, or four in the second version. -/
  countWidth : Nat
  offsetWidth : Nat
  offsets : Bytes
  data : Bytes

namespace Index

def empty : Index := ⟨0, 2, 0, .empty, .empty⟩

/-- Reads a row whose offsets must lie inside the bytes, also those of an empty one. -/
def readWhole? (countWidth : Nat) (bytes : Bytes) : Option Index := do
  let count ← bytes.number? 0 countWidth
  let offsetWidth ← bytes.u8? countWidth
  let offsets ← bytes.slice? (countWidth + 1) ((count + 1) * offsetWidth)
  let data ← bytes.drop? (countWidth + 1 + (count + 1) * offsetWidth)
  pure ⟨count, countWidth, offsetWidth, offsets, data⟩

/-- Reads a row; an empty one is its count alone. -/
def read? (countWidth : Nat) (bytes : Bytes) : Option Index := do
  if (← bytes.number? 0 countWidth) = 0 then pure { empty with countWidth }
  else readWhole? countWidth bytes

/-- Where string `i` begins; `i` may be the count, for the end of the last one. Offsets are stored
one too high. -/
def offset? (index : Index) (i : Nat) : Option Nat := do
  if index.count < i ∨ index.offsetWidth = 0 ∨ 4 < index.offsetWidth then none
  else
    let stored ← index.offsets.number? (i * index.offsetWidth) index.offsetWidth
    if stored = 0 then none else pure (stored - 1)

def get? (index : Index) (i : Nat) : Option Bytes := do
  let start ← index.offset? i
  let stop ← index.offset? (i + 1)
  if stop < start then none else index.data.slice? start (stop - start)

def size? (index : Index) : Option Nat :=
  if index.count = 0 then some index.countWidth
  else (index.offset? index.count).map fun stop =>
    stop + index.offsets.size + index.countWidth + 1

/-- The number that a call adds to reach a subroutine of the row. -/
def bias (index : Index) : Int :=
  if index.count < 1240 then 107 else if index.count < 33900 then 1131 else 32768

end Index
end SizedFace.Cff
