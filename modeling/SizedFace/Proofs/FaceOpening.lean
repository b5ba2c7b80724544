import SizedFace.Proofs.FaceLocation

namespace SizedFace

/-- Two results are the same fault, or values in a relation. -/
def EndAlike {ε α β : Type} (related : α → β → Prop) : Except ε α → Except ε β → Prop
  | .error fault, .error fault' => fault' = fault
  | .ok a, .ok b => related a b
  | _, _ => False

/-- Results with one image end alike, if values with one image are related. -/
theorem endAlike_of_map {ε α β : Type} {f : α → β} {related : α → α → Prop} {x y : Except ε α}
    (same : y.map f = x.map f) (relates : ∀ {a b}, f b = f a → related a b) :
    EndAlike related x y := by
  cases x with
  | error fault => cases y with
    | error fault' => exact Except.error.inj same
    | ok b => cases same
  | ok a => cases y with
    | error fault' => cases same
    | ok b => exact relates (Except.ok.inj same)

/-- A result that shows something has a value that shows it. -/
theorem exists_ok_of_map {ε α β : Type} {result : Except ε α} {view : α → β} {shown : β}
    (seen : result.toOption.map view = some shown) : ∃ a, result = .ok a ∧ view a = shown := by
  cases result with
  | error fault => cases seen
  | ok a => exact ⟨a, rfl, Option.some.inj seen⟩

namespace Bytes

/-- Two runs of one length with the same bytes at some places. -/
structure AgreeOn (places : Nat → Prop) (a b : Bytes) : Prop where
  size : b.size = a.size
  same : ∀ i, places i → b.get? i = a.get? i

/-- Two runs with the same bytes, whether stored or only counted. -/
abbrev Alike : Bytes → Bytes → Prop := AgreeOn fun _ => True

namespace AgreeOn

variable {places : Nat → Prop} {a b : Bytes}

theorem number? (h : AgreeOn places a b) {i width : Nat}
    (held : ∀ j, i ≤ j → j < i + width → places j) : b.number? i width = a.number? i width :=
  number?_congr fun k below => h.same (i + k) (held (i + k) (by omega) (by omega))

theorem mono {fewer : Nat → Prop} (h : AgreeOn places a b) (sub : ∀ i, fewer i → places i) :
    AgreeOn fewer a b :=
  ⟨h.size, fun i held => h.same i (sub i held)⟩

theorem slice (h : AgreeOn places a b) {start length : Nat} (inside : start + length ≤ a.size)
    (held : ∀ j, start ≤ j → j < start + length → places j) :
    Alike (a.slice start length) (b.slice start length) where
  size := by rw [size_slice, size_slice]
  same i _ := by
    have past : ∀ c : Bytes, length ≤ i → (c.slice start length).get? i = none :=
      fun c after => (get?_eq_none_iff _ _).2 (by rw [size_slice]; exact after)
    by_cases below : i < length
    · rw [get?_slice a below inside, get?_slice b below (by rw [h.size]; exact inside)]
      exact h.same _ (held _ (by omega) (by omega))
    · rw [past a (by omega), past b (by omega)]

end AgreeOn

namespace Alike

variable {a b : Bytes}

theorem u16? (h : Alike a b) (i : Nat) : b.u16? i = a.u16? i :=
  AgreeOn.number? h fun _ _ _ => trivial

theorem u32? (h : Alike a b) (i : Nat) : b.u32? i = a.u32? i :=
  AgreeOn.number? h fun _ _ _ => trivial

theorem i16? (h : Alike a b) (i : Nat) : b.i16? i = a.i16? i := by
  simp only [Bytes.i16?, h.u16?]

theorem i32? (h : Alike a b) (i : Nat) : b.i32? i = a.i32? i := by
  simp only [Bytes.i32?, h.u32?]

end Alike
end Bytes

namespace Sfnt

open Bytes

namespace Directory

/-- Two faces whose tables hold the same bytes. -/
def SameTables (d e : Directory) : Prop := ∀ tag, Option.Rel Alike (d.table? tag) (e.table? tag)

namespace SameTables

variable {d e : Directory}

theorem cases (h : SameTables d e) (tag : Tag) :
    (d.table? tag = none ∧ e.table? tag = none) ∨
      ∃ s t, d.table? tag = some s ∧ e.table? tag = some t ∧ Alike s t := by
  have same := h tag
  cases own : d.table? tag <;> cases other : e.table? tag <;> rw [own, other] at same <;>
    cases same
  case none.none => exact .inl ⟨rfl, rfl⟩
  case some.some alike => exact .inr ⟨_, _, rfl, rfl, alike⟩

theorem head (h : SameTables d e) : e.head = d.head := by
  rcases h.cases .head with ⟨own, other⟩ | ⟨s, t, own, other, alike⟩
  · simp only [Directory.head, require, own, other]
  · simp only [Directory.head, require, own, other, alike.size, alike.u16?, alike.i16?]

theorem glyphCount? (h : SameTables d e) : e.glyphCount? = d.glyphCount? := by
  rcases h.cases .maxp with ⟨own, other⟩ | ⟨s, t, own, other, alike⟩
  · simp only [Directory.glyphCount?, own, other]
  · simp only [Directory.glyphCount?, own, other, Option.bind_eq_bind, Option.bind_some,
      alike.size, alike.u16?, alike.u32?]

theorem lineHeader? (h : SameTables d e) (tag : Tag) : e.lineHeader? tag = d.lineHeader? tag := by
  rcases h.cases tag with ⟨own, other⟩ | ⟨s, t, own, other, alike⟩
  · simp only [Directory.lineHeader?, own, other]
  · simp only [Directory.lineHeader?, own, other, Option.bind_eq_bind, Option.bind_some,
      alike.size, alike.u16?, alike.i16?]

theorem systemMetrics? (h : SameTables d e) : e.systemMetrics? = d.systemMetrics? := by
  rcases h.cases .os2 with ⟨own, other⟩ | ⟨s, t, own, other, alike⟩
  · simp only [Directory.systemMetrics?, own, other]
  · simp only [Directory.systemMetrics?, own, other, Option.bind_eq_bind, Option.bind_some,
      alike.size, alike.u16?, alike.i16?]

/-- The tables themselves may be stored in different ways, so only the angles are equal. -/
theorem italicAngle (h : SameTables d e) :
    e.postscript?.map (·.1) = d.postscript?.map (·.1) := by
  rcases h.cases .post with ⟨own, other⟩ | ⟨s, t, own, other, alike⟩
  · simp only [postscript?, own, other, Option.bind_eq_bind, Option.bind_none]
  · simp only [postscript?, own, other, Option.bind_eq_bind, Option.bind_some, alike.size,
      alike.u16?, alike.u32?, alike.i32?]
    cases s.u32? 0 <;> cases s.i32? 4 <;> cases s.u16? 32 <;> try rfl
    all_goals
      simp only [Option.bind_some]
      repeat' split
      all_goals rfl

theorem metrics (h : SameTables d e) (head : Head) : e.metrics head = d.metrics head := by
  have slant := h.italicAngle
  simp only [Directory.metrics, h.systemMetrics?, h.lineHeader?]
  rcases own : d.postscript? with _ | ⟨angle, table⟩ <;>
    rcases other : e.postscript? with _ | ⟨angle', table'⟩ <;> rw [own, other] at slant
  case none.some => cases slant
  case some.none => cases slant
  case some.some =>
    obtain rfl : angle' = angle := Option.some.inj slant
    rfl

end SameTables

/-- A directory stands in every file that agrees on its place, with the same records. -/
theorem Stands.agree {d : Directory} {start : Nat} {other : Bytes} (h : d.Stands start)
    (agree : AgreeOn (fun i => start ≤ i ∧ i < start + 12 + 16 * d.records.length) d.file other) :
    (Directory.mk other d.records).Stands start := by
  obtain ⟨⟨version, mem, known⟩, counted, fits, records⟩ := h
  refine ⟨⟨version, mem, ?_⟩, ?_, ?_, ?_⟩
  · rw [← known]
    exact agree.number? fun j _ _ => by omega
  · rw [← counted]
    exact agree.number? fun j _ _ => by omega
  · rw [agree.size]
    exact fits
  · intro i below
    change i < d.records.length at below
    have numbers : ∀ k, k ≤ 12 →
        other.u32? (start + 12 + 16 * i + k) = d.file.u32? (start + 12 + 16 * i + k) :=
      fun k within => agree.number? fun j _ _ => by omega
    rw [records i below]
    unfold readRecord
    rw [numbers 8 (by omega), numbers 12 (by omega), show other.u32? (start + 12 + 16 * i) = _ from
      numbers 0 (by omega)]
    rfl

/-- The tables of a directory that stands in two files hold the same bytes where the files agree on
the ranges of its records. -/
theorem sameTables {d : Directory} {other : Bytes}
    (agree : AgreeOn (fun i => ∃ r ∈ d.records, r.offset ≤ i ∧ i < r.offset + r.length) d.file
      other) : SameTables d ⟨other, d.records⟩ := by
  intro tag
  have own : (Directory.mk other d.records).record? tag = d.record? tag := rfl
  unfold table?
  rw [own]
  cases found : d.record? tag with
  | none => exact .none
  | some r =>
    simp only
    split
    · exact .none
    · have mem := (mem_of_record?_eq_some found).1
      unfold Bytes.slice?
      rw [agree.size]
      split
      · rename_i inside
        exact .some (agree.slice inside fun j low high => ⟨r, mem, low, high⟩)
      · exact .none

/-- Whether a directory can be read, and for which fault it cannot, shows in its first bytes and the
length of the file. -/
theorem read_fault_agree {a b : Bytes} {start : Nat}
    (agree : AgreeOn (fun i => start ≤ i ∧ i < start + 6) a b) :
    (read b start).map (fun _ => ()) = (read a start).map fun _ => () := by
  have version : b.u32? start = a.u32? start := agree.number? fun j _ _ => by omega
  have count : b.u16? (start + 4) = a.u16? (start + 4) := agree.number? fun j _ _ => by omega
  unfold read
  rw [version, count, agree.size]
  repeat' split
  all_goals rfl

end Directory

/-- The places of a file that are read for a face: the front of the file, what a collection says of
the face, and the directory and the tables of the face. -/
inductive ReadFor (file : Bytes) (index i : Nat) : Prop where
  | front (within : i < 12)
  | entry (low : 12 + 4 * index ≤ i) (high : i < 16 + 4 * index)
  | version {place : Nat} (begins : BeginsAt file index place) (low : place ≤ i)
    (high : i < place + 6)
  | directory {d : Directory} {place : Nat} (begins : BeginsAt file index place)
    (read : Directory.read file place = .ok d) (low : place ≤ i)
    (high : i < place + 12 + 16 * d.records.length)
  | table {d : Directory} {place : Nat} {r : TableRecord} (begins : BeginsAt file index place)
    (read : Directory.read file place = .ok d) (mem : r ∈ d.records) (low : r.offset ≤ i)
    (high : i < r.offset + r.length)

section Agree

variable {data other : Bytes} {index : Nat}

theorem isCollection_agree {count : Nat} (agree : AgreeOn (· < 12) data other) :
    IsCollection other count ↔ IsCollection data count := by
  have signature : other.u32? 0 = data.u32? 0 := agree.number? fun j _ _ => by omega
  have major : other.u16? 4 = data.u16? 4 := agree.number? fun j _ _ => by omega
  have counted : other.u32? 8 = data.u32? 8 := agree.number? fun j _ _ => by omega
  constructor
  · rintro ⟨signed, number, fits⟩
    exact ⟨signature ▸ signed, counted ▸ number, by rw [← major, ← agree.size]; exact fits⟩
  · rintro ⟨signed, number, fits⟩
    exact ⟨signature ▸ signed, counted ▸ number, by rw [major, agree.size]; exact fits⟩

theorem faceCount_agree (agree : AgreeOn (· < 12) data other) :
    faceCount other = faceCount data := by
  by_cases collection : ∃ count, IsCollection data count
  · obtain ⟨count, h⟩ := collection
    obtain ⟨places, read, length, -⟩ := FontFile.read_of_collection h
    obtain ⟨places', read', length', -⟩ :=
      FontFile.read_of_collection ((isCollection_agree agree).2 h)
    simp [faceCount, read, read', FontFile.faceCount, length, length']
  · have single : ∀ count, ¬ IsCollection data count := fun count h => collection ⟨count, h⟩
    have single' : ∀ count, ¬ IsCollection other count :=
      fun count h => single count ((isCollection_agree agree).1 h)
    have same : (Directory.read other 0).map (fun _ => ()) = (Directory.read data 0).map _ :=
      Directory.read_fault_agree (agree.mono fun i held => by omega)
    unfold faceCount
    rw [FontFile.read_of_single single, FontFile.read_of_single single']
    cases front : Directory.read data 0 <;> cases front' : Directory.read other 0 <;>
      rw [front, front'] at same <;> cases same
    · rfl
    · rfl

theorem beginsAt_agree (agree : AgreeOn (ReadFor data index) data other) {place : Nat}
    (begins : BeginsAt data index place) : BeginsAt other index place := by
  have front : AgreeOn (· < 12) data other := agree.mono fun _ within => .front within
  cases begins with
  | alone single first =>
    exact .alone (fun count h => single count ((isCollection_agree front).1 h)) first
  | listed collection within entry =>
    refine .listed ((isCollection_agree front).2 collection) within ?_
    rw [← entry]
    exact agree.number? fun j low high => .entry low (by omega)

/-- Two directories with the same header and the same tables. -/
def SameOpened (a b : Directory × Head) : Prop := b.2 = a.2 ∧ a.1.SameTables b.1

theorem openAt_agree (agree : AgreeOn (ReadFor data index) data other) {place : Nat}
    (begins : BeginsAt data index place) :
    EndAlike SameOpened (openAt data place) (openAt other place) := by
  cases read : Directory.read data place with
  | error why =>
    have fault : (Directory.read other place).map (fun _ => ()) = .error why := by
      rw [Directory.read_fault_agree (agree.mono fun i held => .version begins held.1 held.2), read]
      rfl
    cases read' : Directory.read other place with
    | error why' =>
      rw [read'] at fault
      cases fault
      simp only [openAt, read, read', EndAlike]
    | ok e =>
      rw [read'] at fault
      cases fault
  | ok d =>
    obtain ⟨rfl, stands⟩ := Directory.read_eq_ok.1 read
    have read' : Directory.read other place = .ok ⟨other, d.records⟩ :=
      Directory.read_eq_ok.2 ⟨rfl, stands.agree
        (agree.mono fun i held => .directory begins read held.1 held.2)⟩
    have same : d.SameTables ⟨other, d.records⟩ := by
      apply Directory.sameTables
      apply agree.mono
      intro i within
      obtain ⟨r, mem, low, high⟩ := within
      exact .table begins read mem low high
    simp only [openAt, read, read', same.head]
    cases d.head with
    | error why => rfl
    | ok head =>
      simp only
      split
      · rfl
      · exact ⟨rfl, same⟩

theorem openDirectory_agree (agree : AgreeOn (ReadFor data index) data other) :
    EndAlike SameOpened (openDirectory data index) (openDirectory other index) := by
  have counts := faceCount_agree (agree.mono fun _ within => .front within)
  cases counted : faceCount data with
  | error fault =>
    rw [openDirectory_of_uncounted counted, openDirectory_of_uncounted (counts.trans counted)]
    rfl
  | ok count =>
    by_cases within : index < count
    · obtain ⟨place, begins, same⟩ := openDirectory_of_lt counted within
      obtain ⟨place', begins', same'⟩ := openDirectory_of_lt (counts.trans counted) within
      obtain rfl := (beginsAt_agree agree begins).unique begins'
      rw [same, same']
      exact openAt_agree agree begins
    · have past : count ≤ index := Nat.le_of_not_lt within
      rw [openDirectory_of_past counted past, openDirectory_of_past (counts.trans counted) past]
      rfl

end Agree

namespace Face

def basics (face : Face) : FaceMetrics × Nat := (face.metrics, face.glyphCount)

def ofDirectory (companion : Option Bytes) (opened : Directory × Head) : Face :=
  ⟨opened.1, (companionFace companion).1, opened.1.glyphCount, opened.1.metrics opened.2⟩

theorem ofData_eq (data : Bytes) (companion : Option Bytes) (index : Nat) :
    (ofData data companion index).1 = (openDirectory data index).map (ofDirectory companion) := by
  unfold ofData
  cases openDirectory data index <;> rfl

theorem eq_ofDirectory_of_openFace {data : FontData} {companion : Option FontData} {index : Nat}
    {face : OutlineFace} (opened : (outlines.openFace data companion index).1 = .ok face) :
    ∃ d head, openDirectory data.bytes index = .ok (d, head) ∧
      face = (ofDirectory (companion.map (·.bytes)) (d, head)).toOutlineFace := by
  simp only [outlines, ofData_eq] at opened
  cases read : openDirectory data.bytes index with
  | error fault =>
    rw [read] at opened
    cases opened
  | ok directory =>
    rw [read] at opened
    exact ⟨directory.1, directory.2, rfl, (Except.ok.inj opened).symm⟩

/-- Opening a face depends on no byte that is not read for this face. -/
theorem basics_agree {data other : Bytes} {index : Nat}
    (agree : AgreeOn (ReadFor data index) data other) (companion : Option Bytes) :
    (ofData other companion index).1.map basics = (ofData data companion index).1.map basics := by
  have ends := openDirectory_agree agree
  rw [ofData_eq, ofData_eq]
  cases opened : openDirectory data index <;> cases opened' : openDirectory other index <;>
    rw [opened, opened'] at ends
  case error.error fault fault' =>
    obtain rfl : fault' = fault := ends
    rfl
  case error.ok => exact ends.elim
  case ok.error => exact ends.elim
  case ok.ok first second =>
    obtain ⟨d, head⟩ := first
    obtain ⟨e, head'⟩ := second
    obtain ⟨rfl, same⟩ : SameOpened (d, head) (e, head') := ends
    simp only [Except.map, basics, ofDirectory, same.metrics, Directory.glyphCount,
      same.glyphCount?]

/-- A face that is opened counts the glyphs of its profile, and none without one. -/
theorem glyphCount_cases (d : Directory) :
    d.glyphCount ≤ 65535 ∧ (∀ glyphs, d.Counts glyphs → d.glyphCount = glyphs) ∧
      ((∀ glyphs, ¬ d.Counts glyphs) → d.glyphCount = 0) := by
  unfold Directory.glyphCount
  cases counted : d.glyphCount? with
  | none =>
    refine ⟨Nat.zero_le _, fun glyphs counts => ?_, fun _ => rfl⟩
    rw [Directory.glyphCount?_eq_some.2 counts] at counted
    cases counted
  | some count =>
    have counts := Directory.glyphCount?_eq_some.1 counted
    refine ⟨counts.le, fun glyphs also => ?_, fun none => absurd counts (none count)⟩
    rw [Directory.glyphCount?_eq_some.2 also] at counted
    exact (Option.some.inj counted).symm

/-- How opening a face ends once its directory is read: for want of a header, for want of a grid, or
with the grid of the header and the glyphs that the profile counts, none without a profile. -/
structure EndsBy (d : Directory) (opened : Except LoadFault Face) : Prop where
  headless : (∀ unitsPerEm, ¬ d.HasGrid unitsPerEm) →
    ∃ why, opened = .error (.unsupported (.unusableHead why))
  gridless : d.HasGrid 0 → opened = .error (.metrics .zeroUnitsPerEm)
  opens : ∀ unitsPerEm, d.HasGrid unitsPerEm → unitsPerEm ≠ 0 →
    ∃ face, opened = .ok face ∧ face.metrics.unitsPerEm = unitsPerEm ∧ face.glyphCount ≤ 65535 ∧
      (∀ glyphs, d.Counts glyphs → face.glyphCount = glyphs) ∧
      ((∀ glyphs, ¬ d.Counts glyphs) → face.glyphCount = 0)

theorem endsBy_of_read {data : Bytes} {place : Nat} {d : Directory}
    (read : Directory.read data place = .ok d) (companion : Option Bytes) :
    EndsBy d ((openAt data place).map (ofDirectory companion)) := by
  simp only [openAt, read]
  obtain ⟨most, counts, none⟩ := glyphCount_cases d
  rcases d.head_cases with ⟨head, header, grids⟩ | ⟨why, header, gridless⟩
  · rw [header]
    refine ⟨fun headless => ?_, fun zero => ?_, fun unitsPerEm grid some => ?_⟩
    · exact absurd ((grids head.unitsPerEm).2 rfl) (headless _)
    · simp only [((grids 0).1 zero).symm, if_true]
      rfl
    · obtain rfl := (grids unitsPerEm).1 grid
      simp only [some, if_false]
      exact ⟨_, rfl, rfl, most, counts, none⟩
  · rw [header]
    exact ⟨fun _ => ⟨why, rfl⟩, fun grid => absurd grid (gridless 0),
      fun unitsPerEm grid => absurd grid (gridless unitsPerEm)⟩

/-- Opening a face and counting the faces agree, and the first check that fails decides: the count,
the index, the directory of the face, its header, its grid. Nothing that is not read for the face
matters, such as the directories of other faces. -/
theorem ofData_classified (data : Bytes) (companion : Option Bytes) (index : Nat) :
    let opened := (ofData data companion index).1
    (∀ fault, faceCount data = .error fault →
      opened = .error fault ∧ ∃ why, fault = .unsupported why) ∧
    (∀ count, faceCount data = .ok count → count ≤ index →
      opened = .error (.faceOutOfRange index count)) ∧
    (∀ count, faceCount data = .ok count → index < count →
      (∀ i n, opened ≠ .error (.faceOutOfRange i n)) ∧
      ∃ place, BeginsAt data index place ∧
        (∀ why, Directory.read data place = .error why →
          opened = .error (.unsupported (.unreadable why))) ∧
        ∀ d, Directory.read data place = .ok d → EndsBy d opened) ∧
    ∀ other, AgreeOn (ReadFor data index) data other →
      (ofData other companion index).1.map basics = opened.map basics := by
  simp only [ofData_eq data]
  refine ⟨fun fault uncounted => ?_, fun count counted past => ?_, fun count counted within => ?_,
    fun other agree => by simpa only [ofData_eq] using basics_agree agree companion⟩
  · rw [openDirectory_of_uncounted uncounted]
    obtain ⟨why, -, rfl⟩ := faceCount_eq_error.1 uncounted
    exact ⟨rfl, _, rfl⟩
  · rw [openDirectory_of_past counted past]
    rfl
  · obtain ⟨place, begins, same⟩ := openDirectory_of_lt counted within
    rw [same]
    refine ⟨fun i n failed => ?_, place, begins, fun why unread => ?_,
      fun d read => endsBy_of_read read companion⟩
    · cases opened : openAt data place with
      | error fault =>
        rw [opened] at failed
        rw [Except.error.inj failed] at opened
        exact openAt_ne_faceOutOfRange data place i n opened
      | ok directory =>
        rw [opened] at failed
        cases failed
    · simp only [openAt, unread, Except.map]

end Face

end Sfnt
end SizedFace
