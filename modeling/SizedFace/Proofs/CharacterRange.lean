import Mathlib.Data.Set.Basic
import SizedFace.Instance.Basic
import SizedFace.Proofs.CharacterListing
import SizedFace.Sfnt.Face

namespace SizedFace

open CharacterMap Sfnt

/-- An answer is the code of a set that comes before all its codes, and is missing only when the set
is empty. -/
def EndOf (before : Nat → Nat → Prop) (codes : Set Nat) : Option Nat → Prop
  | none => codes = ∅
  | some code => code ∈ codes ∧ ∀ other ∈ codes, before code other

/-- No code of the inner set comes before all codes of the outer one. -/
def Covers (before : Nat → Nat → Prop) (outer inner : Set Nat) : Prop :=
  ∀ code ∈ inner, ∃ other ∈ outer, before other code

/-- Every code of the inner set lies between two codes of the outer one. -/
def Encloses (outer inner : Set Nat) : Prop :=
  Covers (· ≤ ·) outer inner ∧ Covers (· ≥ ·) outer inner

/-- Two sets have the same end when each covers the other there. -/
theorem EndOf.iff_covers {before : Nat → Nat → Prop} {codes : Set Nat} {answer : Option Nat}
    (told : EndOf before codes answer) (others : Set Nat)
    (trans : ∀ a b c, before a b → before b c → before a c)
    (antisymm : ∀ a b, before a b → before b a → a = b) :
    EndOf before others answer ↔ Covers before codes others ∧ Covers before others codes := by
  cases answer with
  | none =>
    obtain rfl : codes = ∅ := told
    constructor
    · intro h
      obtain rfl : others = ∅ := h
      exact ⟨fun _ h => absurd h (Set.notMem_empty _), fun _ h => absurd h (Set.notMem_empty _)⟩
    · intro h
      apply Set.eq_empty_of_forall_notMem
      intro code mem
      obtain ⟨other, none, -⟩ := h.1 code mem
      exact none
  | some code =>
    obtain ⟨mem, first⟩ := told
    constructor
    · intro h
      exact ⟨fun other mem_other => ⟨code, mem, h.2 other mem_other⟩,
        fun other mem_other => ⟨code, h.1, first other mem_other⟩⟩
    · intro h
      have before_all : ∀ other ∈ others, before code other := by
        intro other mem_other
        obtain ⟨between, mem_between, le⟩ := h.1 other mem_other
        exact trans _ _ _ (first between mem_between) le
      obtain ⟨other, mem_other, le⟩ := h.2 code mem
      obtain rfl := antisymm _ _ le (before_all other mem_other)
      exact ⟨mem_other, before_all⟩

theorem EndOf.of_list {before : Nat → Nat → Prop} {codes : List Nat} {answer : Option Nat}
    (missing : answer = none → codes = [])
    (told : ∀ code, answer = some code → code ∈ codes ∧ ∀ other ∈ codes, before code other) :
    EndOf before {code | code ∈ codes} answer := by
  cases answer with
  | none =>
    obtain rfl := missing rfl
    exact Set.eq_empty_of_forall_notMem fun _ => List.not_mem_nil
  | some code => exact told code rfl

theorem endOf_min? (codes : List Nat) : EndOf (· ≤ ·) {code | code ∈ codes} codes.min? :=
  .of_list List.min?_eq_none_iff.1 fun _ => List.min?_eq_some_iff.1

theorem endOf_max? (codes : List Nat) : EndOf (· ≥ ·) {code | code ∈ codes} codes.max? :=
  .of_list List.max?_eq_none_iff.1 fun _ => List.max?_eq_some_iff.1

namespace CharacterMap

def Subtable.Lists (glyphCount code glyph : Nat) : Subtable → Prop
  | .segments map => map.Lists code glyph
  | .groups map => map.Lists glyphCount code glyph

/-- A code that groups do not list although they hold it: the last code point, or a code whose glyph
is past those of the face. -/
def Subtable.Past (glyphCount code : Nat) : Subtable → Prop
  | .segments _ => False
  | .groups map => lastCodePoint ≤ code ∨ map.Exceeds glyphCount code

/-- The ranges of the subtable follow each other. -/
def Orderly (m : CharacterMap) : Prop :=
  match m.subtable with
  | .segments map => Ascending map.segments Segment.range
  | .groups map => Ascending map.groups Group.range

/-- A code is listed with a glyph other than `.notdef`. -/
def Lists (m : CharacterMap) (code : Nat) : Prop :=
  ∃ glyph, m.subtable.Lists m.glyphCount code glyph ∧ glyph ≠ notdef

/-- What the list of codes leaves out: a code that only stands for another one, or is past what its
subtable lists. -/
def LeftOut (m : CharacterMap) (code : Nat) : Prop :=
  m.subtableGlyph? code = none ∨ m.subtable.Past m.glyphCount code

theorem mem_codes_iff {m : CharacterMap} {code : Nat} : code ∈ m.codes ↔ m.Lists code := by
  obtain ⟨subtable, symbol, glyphCount⟩ := m
  cases subtable <;>
    simp [codes, entries, Lists, Subtable.Lists, SegmentMap.mem_entries_iff,
      GroupMap.mem_entries_iff]

/-- The segments of a map that was read have codes of sixteen bits. -/
def Worded (m : CharacterMap) : Prop :=
  ∀ map, m.subtable = .segments map → ∀ s ∈ map.segments, s.last < 0x10000

theorem SegmentMap.last_lt_of_read {table : Bytes} {map : SegmentMap}
    (read : SegmentMap.read? table = some map) {s : Segment} (mem : s ∈ map.segments) :
    s.last < 0x10000 := by
  obtain ⟨count, -, read⟩ := Option.bind_eq_some_iff.1 read
  obtain ⟨lasts, row, read⟩ := Option.bind_eq_some_iff.1 read
  obtain ⟨firsts, -, read⟩ := Option.bind_eq_some_iff.1 read
  obtain ⟨deltas, -, read⟩ := Option.bind_eq_some_iff.1 read
  obtain ⟨offsets, -, read⟩ := Option.bind_eq_some_iff.1 read
  obtain rfl := Option.some.inj read
  obtain ⟨i, -, rfl⟩ := Array.mem_map.1 mem
  exact Bytes.getD_numbers?_lt row i

theorem select_eq_some {table : Bytes} {records : List (Nat × Nat × Nat)} {reach : Reach}
    {subtable : Subtable} (selected : select table records = some (reach, subtable)) :
    ∃ offset, Subtable.read? table offset = some subtable := by
  induction records with
  | nil => cases selected
  | cons record rest ih =>
    obtain ⟨platform, encoding, offset⟩ := record
    simp only [select] at selected
    split at selected
    · exact ih selected
    · split at selected
      · split at selected
        · rename_i read
          cases selected
          exact ⟨offset, read⟩
        · exact ih selected
      · exact ih selected

theorem worded_of_ofDirectory? {d : Directory} {m : CharacterMap} (made : ofDirectory? d = some m) :
    m.Worded := by
  intro map segments s mem
  obtain ⟨table, -, made⟩ := Option.bind_eq_some_iff.1 made
  obtain ⟨records, -, made⟩ := Option.bind_eq_some_iff.1 made
  obtain ⟨⟨reach, subtable⟩, selected, made⟩ := Option.bind_eq_some_iff.1 made
  obtain rfl := Option.some.inj made
  obtain ⟨offset, read⟩ := select_eq_some selected
  simp only at segments
  subst segments
  unfold Subtable.read? at read
  split at read
  · cases read
  · obtain ⟨bytes, -, read⟩ := Option.bind_eq_some_iff.1 read
    obtain ⟨format, -, read⟩ := Option.bind_eq_some_iff.1 read
    split at read
    · obtain ⟨_, read, same⟩ := Option.map_eq_some_iff.1 read
      cases same
      exact SegmentMap.last_lt_of_read read mem
    · obtain ⟨_, _, same⟩ := Option.map_eq_some_iff.1 read
      cases same
    · cases read

theorem subtable_lists_iff {m : CharacterMap} (orderly : m.Orderly) (worded : m.Worded)
    {code glyph : Nat} :
    m.subtable.Lists m.glyphCount code glyph ↔
      m.subtableGlyph? code = some glyph ∧ code ≤ lastCodePoint ∧
        ¬ m.subtable.Past m.glyphCount code := by
  obtain ⟨subtable, symbol, glyphCount⟩ := m
  cases subtable with
  | segments map =>
    simp only [Subtable.Lists, Subtable.Past, subtableGlyph?, not_false_eq_true, and_true]
    rw [SegmentMap.lists_iff_glyph? orderly (worded map rfl)]
    refine (and_iff_left_of_imp fun looked => ?_).symm
    have short := ((SegmentMap.glyph?_eq_some orderly).1 looked).1
    exact Nat.le_trans (Nat.le_of_lt short) (by decide)
  | groups map =>
    simp only [Subtable.Lists, Subtable.Past, subtableGlyph?, not_or, Nat.not_le]
    rw [GroupMap.lists_iff_glyph? orderly]
    refine and_congr_right fun _ => ?_
    constructor
    · intro h
      exact ⟨Nat.le_of_lt h.1, h⟩
    · intro h
      exact h.2

/-- An orderly map lists the codes that can be looked up, but for those left out. -/
theorem lists_iff {m : CharacterMap} (orderly : m.Orderly) (worded : m.Worded) {code : Nat} :
    m.Lists code ↔
      (code ≤ lastCodePoint ∧ ∃ glyph, m.glyph? code = some glyph ∧ glyph ≠ notdef) ∧
        ¬ m.LeftOut code := by
  simp only [Lists, LeftOut, subtable_lists_iff orderly worded, not_or]
  constructor
  · intro h
    obtain ⟨glyph, ⟨direct, le, kept⟩, real⟩ := h
    have looked : m.glyph? code = some glyph := by simp only [glyph?, direct]
    exact ⟨⟨le, glyph, looked, real⟩, by simp [direct], kept⟩
  · intro h
    obtain ⟨⟨le, glyph, looked, real⟩, held, kept⟩ := h
    obtain ⟨own, direct⟩ := Option.ne_none_iff_exists'.1 held
    simp only [glyph?, direct, Option.some.injEq] at looked
    exact ⟨glyph, ⟨looked ▸ direct, le, kept⟩, real⟩

/-- A symbol font lists the code of its glyph, but not the code that stands for it. -/
example :
    let map : CharacterMap := ⟨.segments ⟨#[⟨0xF041, 0xF041, 0x0FC0, 0⟩], #[]⟩, true, 2⟩
    map.codes = [0xF041] ∧ map.glyph? 0x41 = some 1 := by
  decide +kernel

end CharacterMap

namespace Sfnt.Face

def mapped (face : Face) : Set Nat :=
  {code | code ≤ lastCodePoint ∧ ∃ glyph, face.mapChar code = some glyph}

def listed (face : Face) : Set Nat :=
  {code | ∃ map, face.characterMap? = some map ∧ map.Lists code}

/-- The first and the last character of the face are the ends of a set of codes. -/
structure Spans (face : Face) (codes : Set Nat) : Prop where
  first : EndOf (· ≤ ·) codes face.firstChar
  last : EndOf (· ≥ ·) codes face.lastChar

theorem spans_listed (face : Face) : face.Spans face.listed := by
  cases has : face.characterMap? with
  | none =>
    have empty : face.listed = ∅ := by simp [listed, has]
    constructor
    · simpa [firstChar, has, EndOf] using empty
    · simpa [lastChar, has, EndOf] using empty
  | some map =>
    have same : face.listed = {code | code ∈ map.codes} := by
      simp [listed, has, mem_codes_iff]
    constructor
    · simpa [firstChar, has, same] using endOf_min? map.codes
    · simpa [lastChar, has, same] using endOf_max? map.codes

/-- Two sets have the same ends when they enclose each other. -/
theorem Spans.iff_encloses {face : Face} {codes others : Set Nat} (spans : face.Spans codes) :
    face.Spans others ↔ Encloses codes others ∧ Encloses others codes := by
  have first := spans.first.iff_covers others (fun _ _ _ => Nat.le_trans)
    (fun _ _ => Nat.le_antisymm)
  have last := spans.last.iff_covers others (fun _ _ _ h k => Nat.le_trans k h)
    (fun _ _ h k => Nat.le_antisymm k h)
  constructor
  · intro h
    obtain ⟨low, below⟩ := first.1 h.first
    obtain ⟨high, above⟩ := last.1 h.last
    exact ⟨⟨low, high⟩, ⟨below, above⟩⟩
  · intro h
    obtain ⟨⟨low, high⟩, ⟨below, above⟩⟩ := h
    exact ⟨first.2 ⟨low, below⟩, last.2 ⟨high, above⟩⟩

theorem mapChar_eq_some {face : Face} {code glyph : Nat} :
    face.mapChar code = some glyph ↔
      ∃ map, face.characterMap? = some map ∧ map.glyph? code = some glyph ∧ glyph ≠ notdef := by
  unfold mapChar
  constructor
  · intro h
    obtain ⟨map, has, h⟩ := Option.bind_eq_some_iff.1 h
    obtain ⟨own, looked, h⟩ := Option.bind_eq_some_iff.1 h
    split at h
    · cases h
    · rename_i real
      obtain rfl := Option.some.inj h
      exact ⟨map, has, looked, real⟩
  · intro h
    obtain ⟨map, has, looked, real⟩ := h
    simp [has, looked, real]

/-- Of an orderly map a face lists what it maps, but for what is left out. -/
theorem listed_of_orderly {face : Face} {map : CharacterMap} (has : face.characterMap? = some map)
    (orderly : map.Orderly) : face.listed = face.mapped \ {code | map.LeftOut code} := by
  ext code
  have worded := worded_of_ofDirectory? has
  simp only [listed, mapped, mapChar_eq_some, has, Option.some.injEq, exists_eq_left',
    Set.mem_ofPred_eq, Set.mem_sdiff]
  exact lists_iff orderly worded

/-- An answer of an instance is a number in any case, one past all code points for none. -/
theorem between_ends_iff {face : Face} {code : Nat} (le : code ≤ lastCodePoint) :
    face.firstChar.getD noCharCode ≤ code ∧ code ≤ face.lastChar.getD noCharCode ↔
      (∃ low ∈ face.listed, low ≤ code) ∧ ∃ high ∈ face.listed, high ≥ code := by
  obtain ⟨first, last⟩ := face.spans_listed
  cases least : face.firstChar with
  | none =>
    rw [least] at first
    have empty : face.listed = ∅ := first
    have past : ¬ noCharCode ≤ code := Nat.not_le_of_lt (Nat.lt_of_le_of_lt le (by decide))
    simp [empty, past]
  | some low =>
    rw [least] at first
    cases greatest : face.lastChar with
    | none =>
      rw [greatest] at last
      have empty : face.listed = ∅ := last
      exact absurd first.1 (by simp [empty])
    | some high =>
      rw [greatest] at last
      constructor
      · intro h
        exact ⟨⟨low, first.1, h.1⟩, high, last.1, h.2⟩
      · intro h
        obtain ⟨⟨other, mem, le⟩, above, mem_above, ge⟩ := h
        exact ⟨Nat.le_trans (first.2 other mem) le, Nat.le_trans ge (last.2 above mem_above)⟩

/-- An instance maps no character outside its range exactly when the list of codes encloses the
codes that are mapped. -/
theorem instance_within_iff {face : Face} {i : Instance}
    (of_face : i.face.value = face.toOutlineFace) :
    (∀ code ≤ lastCodePoint, i.mapChar code ≠ notdef → i.firstChar ≤ code ∧ code ≤ i.lastChar) ↔
      Encloses face.listed face.mapped := by
  have maps (code : Nat) : i.mapChar code ≠ notdef ↔ ∃ glyph, face.mapChar code = some glyph := by
    have same : i.mapChar code = (face.mapChar code).getD notdef := by
      rw [Instance.mapChar, of_face]
      rfl
    rw [same]
    cases looked : face.mapChar code with
    | none => simp
    | some glyph =>
      obtain ⟨_, _, _, real⟩ := mapChar_eq_some.1 looked
      simpa using real
  have first : i.firstChar = face.firstChar.getD noCharCode := by
    rw [Instance.firstChar, of_face]
    rfl
  have last : i.lastChar = face.lastChar.getD noCharCode := by
    rw [Instance.lastChar, of_face]
    rfl
  rw [first, last]
  constructor
  · intro h
    constructor
    · intro code mem
      exact ((between_ends_iff mem.1).1 (h code mem.1 ((maps code).2 mem.2))).1
    · intro code mem
      exact ((between_ends_iff mem.1).1 (h code mem.1 ((maps code).2 mem.2))).2
  · intro h code le real
    have mem : code ∈ face.mapped := ⟨le, (maps code).1 real⟩
    exact (between_ends_iff le).2 ⟨h.1 code mem, h.2 code mem⟩

/-- The first and the last character are the ends of what the character map lists. They are the ends
of what the face maps exactly when the listed and the mapped codes enclose each other, and an
instance maps nothing outside them exactly when the listed codes enclose the mapped ones. Where the
ranges of the map follow each other, all turns on the mapped codes that the listing leaves out. -/
theorem spans_mapped_iff (face : Face) :
    face.Spans face.listed ∧
    (face.Spans face.mapped ↔
      Encloses face.listed face.mapped ∧ Encloses face.mapped face.listed) ∧
    (∀ i : Instance, i.face.value = face.toOutlineFace →
      ((∀ code ≤ lastCodePoint,
          i.mapChar code ≠ notdef → i.firstChar ≤ code ∧ code ≤ i.lastChar) ↔
        Encloses face.listed face.mapped)) ∧
    ∀ map, face.characterMap? = some map → map.Orderly →
      face.listed = face.mapped \ {code | map.LeftOut code} ∧
      (face.Spans face.mapped ↔
        Encloses (face.mapped \ {code | map.LeftOut code}) face.mapped) := by
  refine ⟨face.spans_listed, face.spans_listed.iff_encloses, fun _ => instance_within_iff, ?_⟩
  intro map has orderly
  have listed := listed_of_orderly has orderly
  refine ⟨listed, ?_⟩
  rw [face.spans_listed.iff_encloses, listed]
  apply and_iff_left
  have kept {code : Nat} (mem : code ∈ face.mapped \ {code | map.LeftOut code}) :
      code ∈ face.mapped := mem.1
  exact ⟨fun code mem => ⟨code, kept mem, Nat.le_refl _⟩,
    fun code mem => ⟨code, kept mem, Nat.le_refl _⟩⟩

end Sfnt.Face
end SizedFace
