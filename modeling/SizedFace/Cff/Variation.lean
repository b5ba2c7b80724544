import SizedFace.Bytes

namespace SizedFace.Cff

/-- For each index of the store that can be read, the regions it mixes: whether each counts. -/
structure VariationStore where
  bytes : Bytes
  deriving DecidableEq

namespace VariationStore

/-- Reads the head of a store; its items are read when they are asked for. -/
def read? (bytes : Bytes) : Option VariationStore := do
  let count ← bytes.u16? 6
  if bytes.size < 8 + 4 * count then none else pure ⟨bytes⟩

/-- A number of an axis, in parts of `2 ^ 14`. -/
structure Axis where
  start : Int
  peak : Int
  stop : Int

/-- Whether an axis leaves the region alone when it is at zero. One with its numbers out of order,
or on both sides of zero, has no say. -/
def Axis.neutral (a : Axis) : Bool :=
  a.peak < a.start || a.stop < a.peak || a.peak = 0 || (a.start < 0 && 0 < a.stop)

def region? (list : Bytes) (axes index : Nat) : Option Bool :=
  (List.range axes).foldlM
    (fun counts axis => do
      let place := 4 + (index * axes + axis) * 6
      let a : Axis := ⟨← list.i16? place, ← list.i16? (place + 2), ← list.i16? (place + 4)⟩
      pure (counts && a.neutral))
    true

/-- The regions that an index mixes, none for an index without readable items. -/
def regions? (store : VariationStore) (index : Nat) : Option (List Bool) := do
  let count ← store.bytes.u16? 6
  if count ≤ index then none
  else
    let itemPlace ← store.bytes.u32? (8 + 4 * index)
    let listPlace ← store.bytes.u32? 2
    if itemPlace = 0 ∨ listPlace = 0 then none
    else
      let items ← store.bytes.drop? itemPlace
      let itemCount ← items.u16? 0
      let words ← items.u16? 2
      let regionCount ← items.u16? 4
      let wide := words % 0x8000
      let row := (regionCount + wide) * (if 0x8000 ≤ words then 2 else 1)
      if items.size < 6 + 2 * regionCount + itemCount * row then none
      else
        let list ← store.bytes.drop? listPlace
        let axes ← list.u16? 0
        let listed ← list.u16? 2
        if list.size < 4 + listed * axes * 6 then none
        else (List.range regionCount).mapM fun i => do
          let region ← items.u16? (6 + 2 * i)
          if listed ≤ region then none else region? list axes region

end VariationStore
end SizedFace.Cff
