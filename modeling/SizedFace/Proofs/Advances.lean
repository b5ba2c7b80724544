import SizedFace.Binary32.Exact
import SizedFace.Proofs.FaceOpening

namespace SizedFace

namespace Bytes

theorem u16?_of_u32? {b : Bytes} {i n : Nat} (read : b.number? i 4 = some n) :
    b.u16? i = some (n / 0x10000) := by
  obtain ⟨front, above, read⟩ := Option.bind_eq_some_iff.1 read
  obtain ⟨last, below, read⟩ := Option.bind_eq_some_iff.1 read
  obtain ⟨high, top, above⟩ := Option.bind_eq_some_iff.1 above
  obtain ⟨third, next, above⟩ := Option.bind_eq_some_iff.1 above
  obtain ⟨byte, _, rfl⟩ := Option.map_eq_some_iff.1 below
  obtain ⟨byte', _, rfl⟩ := Option.map_eq_some_iff.1 next
  obtain rfl := Option.some.inj above
  obtain rfl := Option.some.inj read
  have := byte.toNat_lt
  have := byte'.toNat_lt
  have half : ((high * 256 + byte'.toNat) * 256 + byte.toNat) / 0x10000 = high := by omega
  rw [half]
  exact top

theorem signed_sixteen (n : Nat) :
    signed 16 n = if n < 0x8000 then (n : Int) else n - 0x10000 := by
  have half : twoPow (16 - 1) = 0x8000 := by decide
  have whole : twoPow 16 = 0x10000 := by decide
  simp only [signed, half, whole]
  rfl

end Bytes

namespace Sfnt

/-- The tables of an axis store an advance for a glyph: the one of its own record, or of the last
record for the glyphs after it. All records must lie inside the table. -/
def Directory.StoresAdvance (d : Directory) (header table : Tag) (glyph advance : Nat) : Prop :=
  ∃ line bytes, d.lineHeader? header = some line ∧ d.table? table = some bytes ∧
    4 * line.advanceCount ≤ bytes.size ∧ 0 < line.advanceCount ∧
    bytes.u16? (4 * min glyph (line.advanceCount - 1)) = some advance

theorem Directory.StoresAdvance.lt {d : Directory} {header table : Tag} {glyph advance : Nat}
    (stores : d.StoresAdvance header table glyph advance) : advance < 0x10000 := by
  obtain ⟨_, _, _, _, _, _, read⟩ := stores
  exact Bytes.number?_lt read

namespace AdvanceTable

theorem read?_eq_some {d : Directory} {header table : Tag} {t : AdvanceTable}
    (read : read? d header table = some t) :
    ∃ line bytes, d.lineHeader? header = some line ∧ d.table? table = some bytes ∧
      4 * line.advanceCount ≤ bytes.size ∧ t.pairs.size = line.advanceCount ∧
      ∀ k < line.advanceCount, t.pairs[k]?.map Prod.fst = bytes.u16? (4 * k) := by
  obtain ⟨line, headed, read⟩ := Option.bind_eq_some_iff.1 read
  obtain ⟨bytes, found, read⟩ := Option.bind_eq_some_iff.1 read
  obtain ⟨row, rows, read⟩ := Option.bind_eq_some_iff.1 read
  obtain rfl := Option.some.inj read
  obtain ⟨inside, size, numbers⟩ := Bytes.numbers?_eq_some.1 rows
  refine ⟨line, bytes, headed, found, by omega, by simpa using size, ?_⟩
  intro k below
  obtain ⟨n, number⟩ : ∃ n, bytes.number? (4 * k) 4 = some n :=
    Bytes.exists_number? (by omega)
  have at_k : row[k]? = some n := by
    have place : 0 + k * 4 = 4 * k := by omega
    rw [numbers k below, place, number]
  rw [Bytes.u16?_of_u32? number]
  simp [at_k]

theorem exists_read? {d : Directory} {header table : Tag} {line : Directory.LineHeader}
    {bytes : Bytes} (headed : d.lineHeader? header = some line)
    (found : d.table? table = some bytes) (inside : 4 * line.advanceCount ≤ bytes.size) :
    ∃ t, read? d header table = some t := by
  have rows : 0 + line.advanceCount * 4 ≤ bytes.size := by omega
  simp only [read?, headed, found, Option.bind_eq_bind, Option.bind_some, Bytes.numbers?, rows,
    if_true]
  exact ⟨_, rfl⟩

theorem advance?_eq (t : AdvanceTable) (glyph : Nat) :
    t.advance? glyph = t.pairs[min glyph (t.pairs.size - 1)]?.map Prod.fst := by
  unfold advance?
  cases own : t.pairs[glyph]? with
  | some pair =>
    have inside := (Array.getElem?_eq_some_iff.1 own).1
    have place : min glyph (t.pairs.size - 1) = glyph := by omega
    rw [place, own]
    rfl
  | none =>
    have past : t.pairs.size ≤ glyph := Array.getElem?_eq_none_iff.1 own
    have place : min glyph (t.pairs.size - 1) = t.pairs.size - 1 := by omega
    rw [place, Array.back?_eq_getElem?]

/-- What is read for a glyph is what is stored for it. -/
theorem advance?_eq_some {d : Directory} {header table : Tag} {glyph advance : Nat} :
    ((read? d header table).bind fun t => t.advance? glyph) = some advance ↔
      d.StoresAdvance header table glyph advance := by
  constructor
  · intro looked
    obtain ⟨t, read, looked⟩ := Option.bind_eq_some_iff.1 looked
    obtain ⟨line, bytes, headed, found, inside, size, words⟩ := read?_eq_some read
    rw [advance?_eq, size] at looked
    have some_records : 0 < line.advanceCount := by
      obtain ⟨pair, at_place, -⟩ := Option.map_eq_some_iff.1 looked
      have := (Array.getElem?_eq_some_iff.1 at_place).1
      omega
    refine ⟨line, bytes, headed, found, inside, some_records, ?_⟩
    rw [← words _ (by omega)]
    exact looked
  · intro stores
    obtain ⟨line, bytes, headed, found, inside, some_records, word⟩ := stores
    obtain ⟨t, read⟩ := exists_read? headed found inside
    obtain ⟨line', bytes', headed', found', -, size, words⟩ := read?_eq_some read
    cases headed.symm.trans headed'
    cases found.symm.trans found'
    rw [read, Option.bind_some, advance?_eq, size, words _ (by omega)]
    exact word

theorem advance?_eq_none {d : Directory} {header table : Tag} {glyph : Nat}
    (unstored : ∀ advance, ¬ d.StoresAdvance header table glyph advance) :
    ((read? d header table).bind fun t => t.advance? glyph) = none := by
  apply Option.eq_none_iff_forall_ne_some.2
  intro advance looked
  exact unstored advance (advance?_eq_some.1 looked)

end AdvanceTable

namespace Face

variable {face : Face} {glyph stored : Nat}

theorem short_of_word (word : stored < 0x10000) : (stored : Int).natAbs < twoPow 24 := by
  have wide : twoPow 24 = 0x1000000 := by decide
  rw [wide]
  omega

theorem short_of_signed (word : stored < 0x10000) :
    (Bytes.signed 16 stored).natAbs < twoPow 24 := by
  have wide : twoPow 24 = 0x1000000 := by decide
  rw [wide, Bytes.signed_sixteen]
  split <;> omega

/-- Scaling in fixed point reads an advance of sixteen bits as a signed number. -/
theorem scaledAdvance_eq (word : stored < 0x10000) :
    scaledAdvance stored = .ofInt (Bytes.signed 16 stored) := by
  have wrapped : Fixed.ofInt stored = Bytes.signed 16 stored * twoPow 16 := by
    have whole : twoPow 16 = 0x10000 := by decide
    rw [Bytes.signed_sixteen, whole]
    simp only [Fixed.ofInt, Fixed.wrap, Int.bmod]
    split <;> split <;> omega
  rw [scaledAdvance, wrapped]
  exact Binary32.ofFixed_eq (short_of_signed word) 16

theorem isSome_advance (face : Face) (glyph : Nat) (vertical : Bool) :
    (face.advance glyph vertical).isSome ↔ glyph < face.glyphCount := by
  unfold advance
  by_cases past : face.glyphCount ≤ glyph
  · simp [past, Nat.not_lt.2 past]
  · rw [if_neg past]
    cases vertical with
    | false => simp [Nat.lt_of_not_le past]
    | true =>
      simp only [if_true]
      split <;> simp [Nat.lt_of_not_le past]

theorem advance_line (inside : glyph < face.glyphCount) :
    face.advance glyph false =
      some (scaledAdvance ((face.directory.horizontal?.bind (·.advance? glyph)).getD 0)) := by
  rw [advance, if_neg (Nat.not_le.2 inside)]
  rfl

theorem advance_column (inside : glyph < face.glyphCount) :
    face.advance glyph true =
      match face.directory.vertical?.bind (·.advance? glyph) with
      | some stored => some (.ofNat stored)
      | none => some (face.metrics.ascent - face.metrics.descent) := by
  rw [advance, if_neg (Nat.not_le.2 inside)]
  rfl

theorem glyphCount_of_ofData {data : Bytes} {companion : Option Bytes} {index : Nat}
    (opened : (ofData data companion index).1 = .ok face) :
    face.glyphCount = face.directory.glyphCount := by
  rw [ofData_eq] at opened
  cases read : openDirectory data index with
  | error fault =>
    rw [read] at opened
    cases opened
  | ok directory =>
    rw [read] at opened
    cases opened
    rfl

theorem tables_of_inside (counts : face.glyphCount = face.directory.glyphCount)
    (inside : glyph < face.glyphCount) :
    face.directory.horizontal? = AdvanceTable.read? face.directory .hhea .hmtx ∧
      face.directory.vertical? = AdvanceTable.read? face.directory .vhea .vmtx := by
  rw [counts, Directory.glyphCount] at inside
  unfold Directory.horizontal? Directory.vertical?
  cases counted : face.directory.glyphCount? with
  | none =>
    rw [counted] at inside
    exact absurd inside (Nat.not_lt_zero glyph)
  | some count => exact ⟨rfl, rfl⟩

/-- What a face answers for the advances of a glyph, from the words that its tables store. -/
structure Advances (face : Face) (glyph : Nat) : Prop where
  line : ∀ stored, face.directory.StoresAdvance .hhea .hmtx glyph stored →
    stored < 0x10000 ∧ face.advance glyph false = some (.ofInt (Bytes.signed 16 stored))
  noLine : (∀ stored, ¬ face.directory.StoresAdvance .hhea .hmtx glyph stored) →
    face.advance glyph false = some .zero
  column : ∀ stored, face.directory.StoresAdvance .vhea .vmtx glyph stored →
    stored < 0x10000 ∧ face.advance glyph true = some (.ofNat stored)
  noColumn : (∀ stored, ¬ face.directory.StoresAdvance .vhea .vmtx glyph stored) →
    face.advance glyph true = some (face.metrics.ascent - face.metrics.descent)

theorem advances_of_inside (counts : face.glyphCount = face.directory.glyphCount)
    (inside : glyph < face.glyphCount) : face.Advances glyph := by
  obtain ⟨line, column⟩ := tables_of_inside counts inside
  refine ⟨?_, ?_, ?_, ?_⟩
  · intro stored stores
    have looked := AdvanceTable.advance?_eq_some.2 stores
    refine ⟨stores.lt, ?_⟩
    rw [advance_line inside, line, looked, Option.getD_some, scaledAdvance_eq stores.lt]
  · intro unstored
    have looked := AdvanceTable.advance?_eq_none unstored
    rw [advance_line inside, line, looked]
    rfl
  · intro stored stores
    have looked := AdvanceTable.advance?_eq_some.2 stores
    refine ⟨stores.lt, ?_⟩
    rw [advance_column inside, column, looked]
  · intro unstored
    have looked := AdvanceTable.advance?_eq_none unstored
    rw [advance_column inside, column, looked]

/-- A word read as a signed number is the same number only in its lower half. -/
theorem ofInt_signed_eq_iff (word : stored < 0x10000) :
    Binary32.ofInt (Bytes.signed 16 stored) = .ofNat stored ↔ stored < 0x8000 := by
  constructor
  · intro same
    have unsigned : (Binary32.ofInt stored).IsInt stored :=
      Binary32.isInt_ofInt (short_of_word word)
    have signed := Binary32.isInt_ofInt (short_of_signed word)
    rw [same] at signed
    have equal := signed.unique unsigned
    rw [Bytes.signed_sixteen] at equal
    split at equal <;> omega
  · intro lower
    rw [Bytes.signed_sixteen, if_pos lower]
    rfl

/-- Exactly the glyphs of a face have advances. Down the column an advance is exactly the word that
is stored, or the height of the line where none is. Along the line it is the stored word read as a
signed number, and zero where none is stored; so it is the stored advance only below `2 ^ 15`, and
only there do equal words give equal advances in the two directions. -/
theorem advance_of_stored {data : Bytes} {companion : Option Bytes} {index : Nat} {face : Face}
    (opened : (ofData data companion index).1 = .ok face) (glyph : Nat) :
    (∀ vertical, (face.advance glyph vertical).isSome ↔ glyph < face.glyphCount) ∧
    (glyph < face.glyphCount → face.Advances glyph) ∧
    ∀ stored < 0x10000,
      (Binary32.ofNat stored).IsInt stored ∧
      (Binary32.ofInt (Bytes.signed 16 stored)).IsInt (Bytes.signed 16 stored) ∧
      (Binary32.ofInt (Bytes.signed 16 stored) = .ofNat stored ↔ stored < 0x8000) := by
  refine ⟨face.isSome_advance glyph, ?_, ?_⟩
  · intro inside
    exact advances_of_inside (glyphCount_of_ofData opened) inside
  · intro stored word
    have unsigned := Binary32.isInt_ofInt (short_of_word word)
    have signed := Binary32.isInt_ofInt (short_of_signed word)
    exact ⟨unsigned, signed, ofInt_signed_eq_iff word⟩

/-- The record of a table near the front of a file. -/
def shortRecord (tag : Tag) (offset length : UInt8) : List UInt8 :=
  tag.bytes ++ [0, 0, 0, 0, 0, 0, 0, offset, 0, 0, 0, length]

/-- A font of one glyph, with the same word of `high * 256` for its advances in both directions. -/
def evenFont (high : UInt8) : Bytes := .ofList <|
  [0, 1, 0, 0, 0, 6, 0, 0, 0, 0, 0, 0] ++
    shortRecord .head 108 54 ++ shortRecord .hhea 162 36 ++ shortRecord .hmtx 198 4 ++
    shortRecord .maxp 202 6 ++ shortRecord .vhea 162 36 ++ shortRecord .vmtx 198 4 ++
    [0, 1, 0, 0, 0, 0, 0, 0, 0, 0, 0, 0, 0x5F, 0x0F, 0x3C, 0xF5, 0, 0, 0x03, 0xE8] ++
    List.replicate 34 0 ++ List.replicate 34 0 ++ [0, 1] ++ [high, 0, 0, 0] ++ [0, 0, 0x50, 0, 0, 1]

/-- The words that a face reads for the advances of its first glyph. -/
def firstWords (face : Face) : Nat × Option Nat × Option Nat :=
  (face.glyphCount,
    (AdvanceTable.read? face.directory .hhea .hmtx).bind (·.advance? 0),
    (AdvanceTable.read? face.directory .vhea .vmtx).bind (·.advance? 0))

/-- One word, and two advances of opposite sign. -/
theorem advance_of_stored_evenFont :
    ∃ face, (ofData (evenFont 0x80) none 0).1 = .ok face ∧
      face.advance 0 false = some (.ofInt (-0x8000)) ∧
      face.advance 0 true = some (.ofInt 0x8000) := by
  have words : (ofData (evenFont 0x80) none 0).1.toOption.map firstWords =
      some (1, some 0x8000, some 0x8000) := by decide +kernel
  cases opened : (ofData (evenFont 0x80) none 0).1 with
  | error fault =>
    rw [opened] at words
    cases words
  | ok face =>
    rw [opened] at words
    obtain ⟨count, line, column⟩ : face.glyphCount = 1 ∧ _ ∧ _ := by
      simpa [Except.toOption, firstWords] using words
    obtain ⟨-, advances, -⟩ := advance_of_stored opened 0
    have answers := advances (by omega)
    have along := (answers.line _ (AdvanceTable.advance?_eq_some.1 line)).2
    have down := (answers.column _ (AdvanceTable.advance?_eq_some.1 column)).2
    exact ⟨face, rfl, along, down⟩

end Face

end Sfnt
end SizedFace
