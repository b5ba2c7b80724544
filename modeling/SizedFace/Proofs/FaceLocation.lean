import SizedFace.Sfnt.Face

namespace SizedFace.Sfnt

/-- The file begins as a collection of so many faces and holds the place of each. -/
structure IsCollection (file : Bytes) (count : Nat) : Prop where
  signature : file.u32? 0 = some Tag.ttcf.toNat
  counted : file.u32? 8 = some count
  fits : 12 + 4 * count + (if file.u16? 4 = some 2 then 12 else 0) ≤ file.size

theorem IsCollection.unique {file : Bytes} {count other : Nat} (h : IsCollection file count)
    (h' : IsCollection file other) : other = count :=
  Option.some.inj (h'.counted.symm.trans h.counted)

theorem readCollection_eq_some {file : Bytes} {places : List Nat} :
    readCollection file = some places ↔
      IsCollection file places.length ∧
        ∀ i < places.length, places[i]? = file.u32? (12 + 4 * i) := by
  constructor
  · intro read
    obtain ⟨tag, signature, rest⟩ := Option.bind_eq_some_iff.1 read
    obtain ⟨major, version, rest⟩ := Option.bind_eq_some_iff.1 rest
    obtain ⟨count, counted, rest⟩ := Option.bind_eq_some_iff.1 rest
    by_cases whole : tag = Tag.ttcf.toNat ∧
        12 + 4 * count + (if major = 2 then 12 else 0) ≤ file.size
    · rw [if_pos whole] at rest
      obtain ⟨own, fits⟩ := whole
      obtain ⟨row, numbers, listed⟩ := Option.bind_eq_some_iff.1 rest
      obtain ⟨-, rfl, numbers⟩ := Bytes.numbers?_eq_some.1 numbers
      obtain rfl := Option.some.inj listed
      refine ⟨⟨own ▸ signature, counted, ?_⟩, ?_⟩
      · simpa [version] using fits
      · intro i below
        have := numbers i below
        rw [Array.getElem?_toList, this, Nat.mul_comm]
        rfl
    · rw [if_neg whole] at rest
      cases rest
  · intro held
    obtain ⟨⟨signature, counted, fits⟩, numbers⟩ := held
    obtain ⟨major, version⟩ : ∃ major, file.u16? 4 = some major :=
      Bytes.exists_number? (by omega)
    have row : file.numbers? 12 4 places.length = some places.toArray := by
      refine Bytes.numbers?_eq_some.2 ⟨by omega, by simp, fun k below => ?_⟩
      rw [List.getElem?_toArray, numbers k below, Nat.mul_comm]
      rfl
    have whole : 12 + 4 * places.length + (if major = 2 then 12 else 0) ≤ file.size := by
      simpa [version] using fits
    simp [readCollection, signature, version, counted, whole, row]

theorem readCollection_eq_none {file : Bytes} :
    readCollection file = none ↔ ∀ count, ¬ IsCollection file count := by
  constructor
  · intro none count h
    obtain ⟨places, numbers⟩ : ∃ places, file.numbers? 12 4 count = some places := by
      have := h.fits
      exact ⟨_, if_pos (by omega)⟩
    obtain ⟨-, size, numbers⟩ := Bytes.numbers?_eq_some.1 numbers
    have read : readCollection file = some places.toList := by
      refine readCollection_eq_some.2 ⟨by simpa [size] using h, fun i below => ?_⟩
      rw [Array.getElem?_toList, numbers i (by simpa [size] using below), Nat.mul_comm]
      rfl
    rw [none] at read
    cases read
  · intro single
    cases read : readCollection file with
    | none => rfl
    | some places => exact absurd (readCollection_eq_some.1 read).1 (single _)

namespace Directory

/-- The records of a directory are those that stand in its file from a place on. -/
structure Stands (d : Directory) (start : Nat) : Prop where
  version : ∃ version ∈ versions, d.file.u32? start = some version
  counted : d.file.u16? (start + 4) = some d.records.length
  fits : start + 12 + 16 * d.records.length ≤ d.file.size
  records : ∀ i < d.records.length, d.records[i]? = readRecord d.file (start + 12 + 16 * i)

end Directory

theorem readRecord_eq_some {file : Bytes} {place : Nat} {r : TableRecord} :
    readRecord file place = some r ↔
      ∃ tag, file.u32? place = some tag ∧ r.tag = .ofNat tag ∧
        file.u32? (place + 8) = some r.offset ∧ file.u32? (place + 12) = some r.length := by
  constructor
  · intro read
    obtain ⟨tag, tagged, read⟩ := Option.bind_eq_some_iff.1 read
    obtain ⟨offset, starts, read⟩ := Option.bind_eq_some_iff.1 read
    obtain ⟨length, ends, read⟩ := Option.bind_eq_some_iff.1 read
    obtain rfl := Option.some.inj read
    exact ⟨tag, tagged, rfl, starts, ends⟩
  · rintro ⟨tag, tagged, own, starts, ends⟩
    simp [readRecord, tagged, starts, ends, ← own]

theorem exists_readRecord {file : Bytes} {place : Nat} (inside : place + 16 ≤ file.size) :
    ∃ r, readRecord file place = some r := by
  obtain ⟨tag, tagged⟩ : ∃ tag, file.u32? place = some tag := Bytes.exists_number? (by omega)
  obtain ⟨offset, starts⟩ : ∃ offset, file.u32? (place + 8) = some offset :=
    Bytes.exists_number? (by omega)
  obtain ⟨length, ends⟩ : ∃ length, file.u32? (place + 12) = some length :=
    Bytes.exists_number? (by omega)
  exact ⟨⟨.ofNat tag, offset, length⟩, readRecord_eq_some.2 ⟨tag, tagged, rfl, starts, ends⟩⟩

/-- Where every element has an image, the images stand at the places of the elements. -/
theorem filterMap_range {α : Type} {f : Nat → Option α} {n : Nat}
    (total : ∀ i < n, ∃ x, f i = some x) :
    ((List.range n).filterMap f).length = n ∧
      ∀ i < n, ((List.range n).filterMap f)[i]? = f i := by
  induction n with
  | zero => simp
  | succ n ih =>
    obtain ⟨length, images⟩ := ih fun i below => total i (by omega)
    obtain ⟨x, image⟩ := total n (by omega)
    rw [List.range_succ, List.filterMap_append]
    simp only [List.filterMap_cons, image, List.filterMap_nil, List.length_append, length,
      List.length_singleton, true_and]
    intro i below
    by_cases last : i = n
    · subst last
      rw [List.getElem?_append_right (by omega)]
      simp [length, image]
    · rw [List.getElem?_append_left (by omega), images i (by omega)]

namespace Directory

/-- A directory is read where its records stand. -/
theorem read_eq_ok {file : Bytes} {start : Nat} {d : Directory} :
    read file start = .ok d ↔ d.file = file ∧ d.Stands start := by
  constructor
  · intro opened
    unfold read at opened
    split at opened
    · rename_i version count known counted
      split at opened
      · cases opened
      · rename_i fits
        split at opened
        · rename_i mem
          cases opened
          obtain ⟨length, records⟩ := filterMap_range (n := count)
            (f := fun i => readRecord file (start + 12 + 16 * i))
            fun i below => exists_readRecord (by omega)
          refine ⟨rfl, ⟨version, mem, known⟩, ?_, ?_, ?_⟩
          · rw [length]
            exact counted
          · rw [length]
            exact Nat.le_of_not_lt fits
          · rw [length]
            exact records
        · cases opened
    · cases opened
  · rintro ⟨rfl, ⟨version, mem, known⟩, counted, fits, records⟩
    have same : (List.range d.records.length).filterMap
        (fun i => readRecord d.file (start + 12 + 16 * i)) = d.records := by
      obtain ⟨length, images⟩ := filterMap_range (n := d.records.length)
        (f := fun i => readRecord d.file (start + 12 + 16 * i))
        fun i below => exists_readRecord (by omega)
      apply List.ext_getElem?
      intro i
      by_cases below : i < d.records.length
      · rw [images i below, records i below]
      · rw [List.getElem?_eq_none (by omega), List.getElem?_eq_none (by omega)]
    have inside : ¬ d.file.size < start + 12 + 16 * d.records.length := by omega
    simp [read, known, counted, inside, mem, same]

/-- The header of a face can be read, and gives this grid. -/
def HasGrid (d : Directory) (unitsPerEm : Nat) : Prop :=
  ∃ table, d.table? .head = some table ∧ 54 ≤ table.size ∧ table.u16? 18 = some unitsPerEm

def Counts (d : Directory) (count : Nat) : Prop :=
  ∃ table version, d.table? .maxp = some table ∧ table.u32? 0 = some version ∧
    table.u16? 4 = some count ∧ (version / 0x10000 = 1 → 32 ≤ table.size)

theorem head_cases (d : Directory) :
    (∃ head, d.head = .ok head ∧
      ∀ unitsPerEm, d.HasGrid unitsPerEm ↔ unitsPerEm = head.unitsPerEm) ∨
    ∃ why, d.head = .error why ∧ ∀ unitsPerEm, ¬ d.HasGrid unitsPerEm := by
  cases stored : d.table? .head with
  | none =>
    refine .inr ⟨.missing .head, by simp [head, require, stored], ?_⟩
    rintro unitsPerEm ⟨table, has, -⟩
    rw [stored] at has
    cases has
  | some table =>
    by_cases short : table.size < 54
    · refine .inr ⟨.outOfBounds, by simp [head, require, stored, short], ?_⟩
      rintro unitsPerEm ⟨other, has, long, -⟩
      rw [stored] at has
      cases has
      omega
    · obtain ⟨grid, read⟩ : ∃ grid, table.u16? 18 = some grid := Bytes.exists_number? (by omega)
      refine .inl ⟨⟨grid, table.i16? 50 = some 1⟩, ?_, fun unitsPerEm => ⟨?_, ?_⟩⟩
      · simp [head, require, stored, short, read]
      · rintro ⟨other, has, -, same⟩
        rw [stored] at has
        cases has
        exact Option.some.inj (same.symm.trans read)
      · rintro rfl
        exact ⟨table, stored, by omega, read⟩

theorem HasGrid.of_head {d : Directory} {head : Head} (header : d.head = .ok head) :
    d.HasGrid head.unitsPerEm := by
  rcases d.head_cases with ⟨own, read, grids⟩ | ⟨why, unread, -⟩
  · rw [read] at header
    cases header
    exact (grids _).2 rfl
  · rw [unread] at header
    cases header

theorem glyphCount?_eq_some {d : Directory} {count : Nat} :
    d.glyphCount? = some count ↔ d.Counts count := by
  constructor
  · intro read
    obtain ⟨table, stored, read⟩ := Option.bind_eq_some_iff.1 read
    obtain ⟨version, known, read⟩ := Option.bind_eq_some_iff.1 read
    obtain ⟨number, counted, read⟩ := Option.bind_eq_some_iff.1 read
    split at read
    · cases read
    · rename_i long
      obtain rfl := Option.some.inj read
      exact ⟨table, version, stored, known, counted, fun first => by omega⟩
  · rintro ⟨table, version, stored, known, counted, long⟩
    have whole : ¬ (version / 0x10000 = 1 ∧ table.size < 32) := by omega
    simp [glyphCount?, stored, known, counted, whole]

theorem Counts.le {d : Directory} {count : Nat} (h : d.Counts count) : count ≤ 65535 := by
  obtain ⟨table, version, -, -, counted, -⟩ := h
  have word : count < 0x10000 := Bytes.number?_lt counted
  omega

end Directory

/-- Where the directory of a face begins: at the front of a file that is no collection, or at the
place that a collection has for it. -/
inductive BeginsAt (file : Bytes) (index : Nat) : Nat → Prop where
  | alone (single : ∀ count, ¬ IsCollection file count) (first : index = 0) :
    BeginsAt file index 0
  | listed {count place : Nat} (collection : IsCollection file count) (within : index < count)
    (entry : file.u32? (12 + 4 * index) = some place) : BeginsAt file index place

theorem BeginsAt.unique {file : Bytes} {index place other : Nat} (h : BeginsAt file index place)
    (h' : BeginsAt file index other) : other = place := by
  cases h with
  | alone single _ =>
    cases h' with
    | alone => rfl
    | listed collection => exact absurd collection (single _)
  | listed collection _ entry =>
    cases h' with
    | alone single => exact absurd collection (single _)
    | listed _ _ entry' => exact Option.some.inj (entry'.symm.trans entry)

/-- A collection is never read as a single face: no face begins with its signature. -/
theorem IsCollection.not_single {file : Bytes} {count : Nat} (h : IsCollection file count)
    (d : Directory) : Directory.read file 0 ≠ .ok d := by
  intro opened
  obtain ⟨rfl, ⟨version, mem, known⟩, -⟩ := Directory.read_eq_ok.1 opened
  rw [h.signature] at known
  obtain rfl := Option.some.inj known
  revert mem
  decide

namespace FontFile

theorem read_of_collection {file : Bytes} {count : Nat} (h : IsCollection file count) :
    ∃ places, FontFile.read file = .ok (.collection file places) ∧ places.length = count ∧
      ∀ i < count, places[i]? = file.u32? (12 + 4 * i) := by
  cases listed : readCollection file with
  | none => exact absurd h (readCollection_eq_none.1 listed count)
  | some places =>
    obtain ⟨collection, entries⟩ := readCollection_eq_some.1 listed
    obtain rfl := h.unique collection
    exact ⟨places, by simp [read, listed], rfl, entries⟩

theorem read_of_single {file : Bytes} (single : ∀ count, ¬ IsCollection file count) :
    FontFile.read file = (Directory.read file 0).map .single := by
  rw [read, readCollection_eq_none.2 single]
  cases Directory.read file 0 <;> rfl

/-- A file is read as a single face exactly when a directory stands at its front. -/
theorem read_eq_single {file : Bytes} {d : Directory} :
    FontFile.read file = .ok (.single d) ↔ Directory.read file 0 = .ok d := by
  by_cases collection : ∃ count, IsCollection file count
  · obtain ⟨count, h⟩ := collection
    obtain ⟨places, opened, -⟩ := read_of_collection h
    simp [opened, h.not_single d]
  · rw [read_of_single fun count h => collection ⟨count, h⟩]
    cases Directory.read file 0 <;> simp [Except.map]

theorem face_of_lt {data : Bytes} {file : FontFile} {index : Nat}
    (opened : FontFile.read data = .ok file) (within : index < file.faceCount) :
    ∃ place, BeginsAt data index place ∧ file.face index = Directory.read data place := by
  by_cases collection : ∃ count, IsCollection data count
  · obtain ⟨count, h⟩ := collection
    obtain ⟨places, read, rfl, entries⟩ := read_of_collection h
    rw [read] at opened
    cases opened
    obtain ⟨place, entry⟩ : ∃ place, places[index]? = some place :=
      ⟨_, List.getElem?_eq_getElem within⟩
    refine ⟨place, .listed h within ?_, by simp [face, entry]⟩
    rw [← entries index within, entry]
  · have single : ∀ count, ¬ IsCollection data count := fun count h => collection ⟨count, h⟩
    rw [read_of_single single] at opened
    cases front : Directory.read data 0 with
    | error why =>
      rw [front] at opened
      cases opened
    | ok d =>
      rw [front] at opened
      cases opened
      obtain rfl : index = 0 := by
        simp only [faceCount] at within
        omega
      exact ⟨0, .alone single rfl, by simp [face, front]⟩

end FontFile

/-- The end of an opening whose directory is read at a place. -/
def openAt (data : Bytes) (place : Nat) : Except LoadFault (Directory × Head) :=
  match Directory.read data place with
  | .error fault => .error (.unsupported (.unreadable fault))
  | .ok directory =>
    match directory.head with
    | .error fault => .error (.unsupported (.unusableHead fault))
    | .ok head =>
      if head.unitsPerEm = 0 then .error (.metrics .zeroUnitsPerEm) else .ok (directory, head)

theorem faceCount_eq_error {data : Bytes} {fault : LoadFault} :
    faceCount data = .error fault ↔
      ∃ why, FontFile.read data = .error why ∧ fault = .unsupported (.unreadable why) := by
  unfold faceCount
  cases FontFile.read data <;> simp [eq_comm]

theorem faceCount_eq_ok {data : Bytes} {count : Nat} :
    faceCount data = .ok count ↔
      ∃ file, FontFile.read data = .ok file ∧ file.faceCount = count := by
  unfold faceCount
  cases FontFile.read data <;> simp

/-- A file whose faces cannot be counted has none to open, for the same fault. -/
theorem openDirectory_of_uncounted {data : Bytes} {fault : LoadFault}
    (uncounted : faceCount data = .error fault) (index : Nat) :
    openDirectory data index = .error fault := by
  obtain ⟨why, read, rfl⟩ := faceCount_eq_error.1 uncounted
  simp [openDirectory, read]

theorem openDirectory_of_past {data : Bytes} {count index : Nat}
    (counted : faceCount data = .ok count) (past : count ≤ index) :
    openDirectory data index = .error (.faceOutOfRange index count) := by
  obtain ⟨file, read, rfl⟩ := faceCount_eq_ok.1 counted
  simp [openDirectory, read, past]

/-- A face that the file counts opens as the directory at its place does. -/
theorem openDirectory_of_lt {data : Bytes} {count index : Nat}
    (counted : faceCount data = .ok count) (within : index < count) :
    ∃ place, BeginsAt data index place ∧ openDirectory data index = openAt data place := by
  obtain ⟨file, read, rfl⟩ := faceCount_eq_ok.1 counted
  obtain ⟨place, begins, face⟩ := FontFile.face_of_lt read within
  have inside : ¬ file.faceCount ≤ index := Nat.not_le.2 within
  refine ⟨place, begins, ?_⟩
  cases front : Directory.read data place with
  | error why => simp [openDirectory, openAt, read, inside, face, front]
  | ok d =>
    cases header : d.head <;> simp [openDirectory, openAt, read, inside, face, front, header]

theorem read_of_openAt {data : Bytes} {place : Nat} {d : Directory} {head : Head}
    (opened : openAt data place = .ok (d, head)) :
    Directory.read data place = .ok d ∧ d.head = .ok head ∧ head.unitsPerEm ≠ 0 := by
  unfold openAt at opened
  split at opened
  · cases opened
  · rename_i directory read
    split at opened
    · cases opened
    · rename_i own header
      split at opened
      · cases opened
      · rename_i grid
        cases opened
        exact ⟨read, header, grid⟩

theorem openAt_ne_faceOutOfRange (data : Bytes) (place index count : Nat) :
    openAt data place ≠ .error (.faceOutOfRange index count) := by
  unfold openAt
  repeat' split
  all_goals simp

/-- What an opening leaves: the directory of the face at its place, with a grid. -/
theorem stands_of_openDirectory {data : Bytes} {index : Nat} {d : Directory} {head : Head}
    (opened : openDirectory data index = .ok (d, head)) :
    ∃ place, BeginsAt data index place ∧ d.file = data ∧ d.Stands place ∧
      d.head = .ok head ∧ head.unitsPerEm ≠ 0 := by
  cases counted : faceCount data with
  | error fault =>
    rw [openDirectory_of_uncounted counted] at opened
    cases opened
  | ok count =>
    by_cases within : index < count
    · obtain ⟨place, begins, same⟩ := openDirectory_of_lt counted within
      rw [same] at opened
      obtain ⟨read, header, grid⟩ := read_of_openAt opened
      obtain ⟨file, stands⟩ := Directory.read_eq_ok.1 read
      exact ⟨place, begins, file, stands, header, grid⟩
    · rw [openDirectory_of_past counted (Nat.le_of_not_lt within)] at opened
      cases opened

end SizedFace.Sfnt
