import SizedFace.Proofs.Assembly
import SizedFace.Proofs.FaceOpening
import SizedFace.Session.Basic

namespace SizedFace

namespace Sfnt

/-- A record that starts somewhere and ends inside the file. -/
def TableRecord.Inside (r : TableRecord) (file : Bytes) : Prop :=
  r.offset ≠ 0 ∧ r.offset + r.length ≤ file.size

namespace Directory

variable {d : Directory} {r : TableRecord}

theorem exists_record? (mem : r ∈ d.records) : ∃ own, d.record? r.tag = some own := by
  unfold record?
  refine Option.isSome_iff_exists.1 ?_
  split
  · exact List.find?_isSome.2 ⟨r, List.mem_reverse.2 mem, by simp⟩
  · exact List.find?_isSome.2 ⟨r, mem, by simp⟩

theorem table?_of_inside {tag : Tag} (found : d.record? tag = some r) (inside : r.Inside d.file) :
    d.table? tag = some (d.file.slice r.offset r.length) :=
  table?_eq_some.2 ⟨r, found, inside.1, inside.2, rfl⟩

theorem not_counts_of_outside (found : d.record? .maxp = some r) (outside : ¬ r.Inside d.file)
    (count : Nat) : ¬ d.Counts count := by
  rintro ⟨table, -, stored, -⟩
  obtain ⟨own, same, starts, ends, -⟩ := table?_eq_some.1 stored
  obtain rfl := Option.some.inj (found.symm.trans same)
  exact outside ⟨starts, ends⟩

theorem glyphCount_eq_iff {count : Nat} (some_glyphs : 0 < count) :
    d.glyphCount = count ↔ d.Counts count := by
  rw [← glyphCount?_eq_some, glyphCount]
  cases d.glyphCount? with
  | none =>
    simp only [Option.getD_none]
    exact ⟨fun zero => by omega, fun counts => by cases counts⟩
  | some own => simp

end Directory
end Sfnt

namespace Shaping

open Sfnt

/-- What the engine counts from a record: its range is cut off at the end of the file. -/
def countIn (file : Bytes) (r : TableRecord) : Nat :=
  countGlyphs (file.slice r.offset (min r.length (file.size - r.offset)))

theorem findRecord_eq_some {file : Bytes} {start : Nat} {tag : Tag} {low high i : Nat}
    (found : findRecord file start tag low high = some i) :
    i < high ∧ file.u32? (start + 12 + 16 * i) = some tag.toNat := by
  fun_induction findRecord file start tag low high with
  | case1 low high below middle unread => cases found
  | case2 low high below middle own read less ih =>
    obtain ⟨within, same⟩ := ih found
    exact ⟨by omega, same⟩
  | case3 low high below middle own read less more ih => exact ih found
  | case4 low high below middle own read less more =>
    obtain rfl := Option.some.inj found
    refine ⟨by omega, ?_⟩
    rw [read, show own = tag.toNat by omega]
  | case5 low high done => cases found

/-- A face that the engine counts glyphs of has a record of them, and this is their count. -/
theorem exists_record_of_countGlyphs {d : Directory} {start : Nat} (stands : d.Stands start)
    (some_glyphs : countGlyphs (tableBytes d.file start .maxp) ≠ 0) :
    ∃ r ∈ d.records, r.tag = .maxp ∧
      countGlyphs (tableBytes d.file start .maxp) = countIn d.file r := by
  have empty : countGlyphs .empty = 0 := rfl
  unfold tableBytes at some_glyphs ⊢
  rw [stands.counted] at some_glyphs ⊢
  simp only [Option.bind_eq_bind, Option.bind_some] at some_glyphs ⊢
  cases found : findRecord d.file start .maxp 0 d.records.length with
  | none =>
    rw [found] at some_glyphs
    exact absurd empty some_glyphs
  | some i =>
    obtain ⟨below, tagged⟩ := findRecord_eq_some found
    have record := stands.records i below
    rw [List.getElem?_eq_getElem below] at record
    obtain ⟨tag, own, named, starts, ends⟩ := readRecord_eq_some.1 record.symm
    refine ⟨d.records[i], List.getElem_mem below, ?_, ?_⟩
    · rw [named]
      rw [tagged] at own
      obtain rfl := Option.some.inj own
      decide
    · have offset : d.file.u32? (start + 20 + 16 * i) = some d.records[i].offset := by
        rw [← starts]
        congr 1
        omega
      have length : d.file.u32? (start + 24 + 16 * i) = some d.records[i].length := by
        rw [← ends]
        congr 1
        omega
      simp [offset, length, countIn]

/-- The engine looks for a face of a collection where the collection has it, or not at all. -/
theorem collectionSite_start {file : Bytes} {places : List Nat} {index place : Nat}
    (entry : places[index]? = some place) :
    (collectionSite file places index).start = none ∨
      (collectionSite file places index).start = some place := by
  unfold collectionSite
  simp only [entry, Option.bind_some]
  split
  · exact .inl rfl
  · simp only
    split
    · exact .inl rfl
    · exact .inr rfl

/-- Where a face begins, the engine finds this face or none. -/
theorem site_start {d : Directory} {index place : Nat} (begins : BeginsAt d.file index place)
    (stands : d.Stands place) :
    (site d.file index).start = none ∨ (site d.file index).start = some place := by
  cases begins with
  | alone single first =>
    obtain ⟨version, known, front⟩ := stands.version
    have more : ∀ version ∈ versions, version ∈ singleVersions := by decide
    simp only [site, front, if_pos (more version known)]
    split
    · exact .inr rfl
    · exact .inl rfl
  | listed collection within entry =>
    have other : Tag.ttcf.toNat ∉ singleVersions := by decide
    simp only [site, collection.signature, if_neg other, collection.counted, if_true]
    split
    · rename_i major count _ counted
      obtain rfl := Option.some.inj counted
      split
      · split
        · rename_i places row
          obtain ⟨-, -, numbers⟩ := Bytes.numbers?_eq_some.1 row
          refine collectionSite_start ?_
          rw [Array.getElem?_toList, numbers index within, Nat.mul_comm]
          exact entry
        · exact .inl rfl
      · exact .inl rfl
    · exact .inl rfl

/-- A table that the engine counts glyphs in is one that the outlines can read. -/
theorem readable_of_countGlyphs {table : Bytes} (some_glyphs : countGlyphs table ≠ 0) :
    ∃ version, table.u32? 0 = some version ∧ table.u16? 4 = some (countGlyphs table) ∧
      (version / 0x10000 = 1 → 32 ≤ table.size) := by
  unfold countGlyphs at some_glyphs ⊢
  split at some_glyphs
  · rename_i version count known counted
    split at some_glyphs
    · rename_i taken
      refine ⟨version, known, ?_, fun full => ?_⟩
      · simp only [counted, if_pos taken]
      · rcases taken with ⟨-, long⟩ | rfl
        · exact long
        · cases full
    · exact absurd rfl some_glyphs
  · exact absurd rfl some_glyphs

/-- A record that lies in the file is counted alike by the engine and by the outlines. -/
theorem counts_countIn {d : Directory} {r : TableRecord} (found : d.record? .maxp = some r)
    (inside : r.Inside d.file) (some_glyphs : countIn d.file r ≠ 0) :
    d.Counts (countIn d.file r) := by
  have whole : min r.length (d.file.size - r.offset) = r.length := by
    have := inside.2
    omega
  unfold countIn at some_glyphs ⊢
  rw [whole] at some_glyphs ⊢
  obtain ⟨version, known, counted, long⟩ := readable_of_countGlyphs some_glyphs
  exact ⟨_, version, Directory.table?_of_inside found inside, known, counted, long⟩

theorem engine_createHandle {data : FontData} {index unitsPerEm : Nat} {handle : ShapingHandle}
    (made : (engine.createHandle data index unitsPerEm).1 = .ok handle) :
    (site data.bytes index).glyphCount data.bytes ≠ 0 ∧
      handle.binding =
        .engine index unitsPerEm ((site data.bytes index).glyphCount data.bytes) := by
  unfold engine at made
  simp only at made
  split at made
  · cases made
  · rename_i some_glyphs
    cases made
    exact ⟨some_glyphs, rfl⟩

/-- Where a face begins, what the engine counts at its site it counts from a record of this face. -/
theorem exists_record_of_glyphCount {d : Directory} {index place : Nat}
    (begins : BeginsAt d.file index place) (stands : d.Stands place)
    (some_glyphs : (site d.file index).glyphCount d.file ≠ 0) :
    ∃ r ∈ d.records, r.tag = .maxp ∧
      (site d.file index).glyphCount d.file = countIn d.file r := by
  rcases site_start begins stands with nowhere | here
  · simp [Site.glyphCount, nowhere] at some_glyphs
  · simp only [Site.glyphCount, here] at some_glyphs ⊢
    exact exists_record_of_countGlyphs stands some_glyphs

end Shaping

open Sfnt

/-- The engine that an instance is bound to looks at the very directory that the outlines of the
instance are read from: it is scaled to the grid of its header, and counts glyphs from one of its
records. -/
structure Instance.Shares (i : Instance) (d : Directory) (theirs : TableRecord) : Prop where
  read : ∃ place, BeginsAt i.data.bytes i.faceIndex place ∧
    Directory.read i.data.bytes place = .ok d
  grid : d.HasGrid i.unitsPerEm
  mem : theirs ∈ d.records
  tag : theirs.tag = .maxp
  some_glyphs : 0 < Shaping.countIn d.file theirs
  bound : i.shaper.value.binding =
    .engine i.faceIndex i.unitsPerEm (Shaping.countIn d.file theirs)

theorem Instance.Built.shares {o : Options} {tree : FileTree} {r : Request} {i : Instance}
    (built : i.Built o tree r) (outline : o.outline = outlines)
    (shaping : o.shaping = Shaping.engine) :
    ∃ d theirs, i.Shares d theirs ∧ i.glyphCount = d.glyphCount := by
  have made := built.opened
  have shaped := built.shaped
  rw [outline] at made
  rw [shaping] at shaped
  obtain ⟨d, head, directory, face⟩ := Face.eq_ofDirectory_of_openFace made
  obtain ⟨place, begins, file, stands, header, -⟩ := stands_of_openDirectory directory
  have unitsPerEm : i.unitsPerEm = head.unitsPerEm := by
    rw [built.unitsPerEm, face]
    rfl
  have glyphCount : i.glyphCount = d.glyphCount := by
    rw [built.glyphCount, face]
    rfl
  obtain ⟨some_glyphs, bound⟩ := Shaping.engine_createHandle shaped
  rw [← file] at begins some_glyphs bound
  obtain ⟨theirs, mem, tag, count⟩ :=
    Shaping.exists_record_of_glyphCount begins stands some_glyphs
  rw [count] at some_glyphs bound
  rw [← built.faceIndex] at begins bound
  refine ⟨d, theirs, ⟨⟨place, ?_, ?_⟩, ?_, mem, tag, ?_, bound⟩, glyphCount⟩
  · rw [← file]
    exact begins
  · exact Directory.read_eq_ok.2 ⟨file, stands⟩
  · rw [unitsPerEm]
    exact Directory.HasGrid.of_head header
  · exact Nat.pos_of_ne_zero some_glyphs

/-- An instance that is shaped by the engine has one face in both backends, the engine counts its
glyphs, and its own count is the same exactly when it resolves a profile with this count. Where both
go by one record, they agree exactly when the record lies in the file, and otherwise the instance
has no glyphs at all. -/
theorem engine_agrees {o : Options} {tree : FileTree} {r : Request} {i : Instance}
    (outline : o.outline = outlines) (shaping : o.shaping = Shaping.engine)
    (opened : (o.openInstance tree r).1 = .ok i) :
    i.faceIndex = r.faceIndex ∧ ∃ d theirs, i.Shares d theirs ∧
      (i.glyphCount = Shaping.countIn d.file theirs ↔ d.Counts (Shaping.countIn d.file theirs)) ∧
      ∃ own ∈ d.records, own.tag = .maxp ∧ d.record? .maxp = some own ∧ (own = theirs →
        (i.glyphCount = Shaping.countIn d.file theirs ↔ theirs.Inside d.file) ∧
        (¬ theirs.Inside d.file → i.glyphCount = 0)) := by
  have built := Options.built_of_openInstance opened
  obtain ⟨d, theirs, shares, glyphCount⟩ := built.shares outline shaping
  have agree := Directory.glyphCount_eq_iff (d := d) shares.some_glyphs
  obtain ⟨own, found⟩ := Directory.exists_record? shares.mem
  rw [shares.tag] at found
  obtain ⟨mem, tag⟩ := Directory.mem_of_record?_eq_some found
  rw [glyphCount]
  refine ⟨built.faceIndex, d, theirs, shares, agree, own, mem, tag, found, ?_⟩
  rintro rfl
  have uncounted (outside : ¬ own.Inside d.file) : ∀ count, ¬ d.Counts count :=
    Directory.not_counts_of_outside found outside
  refine ⟨agree.trans ⟨fun counts => ?_, fun inside => ?_⟩, fun outside => ?_⟩
  · exact Classical.byContradiction fun outside => uncounted outside _ counts
  · exact Shaping.counts_countIn found inside (Nat.ne_of_gt shares.some_glyphs)
  · exact (Face.glyphCount_cases d).2.2 (uncounted outside)

/-- A font with a header and, at its end, a profile of five glyphs that takes six bytes. Its
directory gives the profile a length. -/
def smallFont (profileLength : UInt8) : Bytes := .ofList <|
  [0x00, 0x01, 0x00, 0x00, 0x00, 0x02, 0x00, 0x00, 0x00, 0x00, 0x00, 0x00,
    0x68, 0x65, 0x61, 0x64, 0x00, 0x00, 0x00, 0x00, 0x00, 0x00, 0x00, 0x2C, 0x00, 0x00, 0x00, 0x36,
    0x6D, 0x61, 0x78, 0x70, 0x00, 0x00, 0x00, 0x00, 0x00, 0x00, 0x00, 0x62,
    0x00, 0x00, 0x00, profileLength,
    0x00, 0x01, 0x00, 0x00, 0x00, 0x00, 0x00, 0x00, 0x00, 0x00, 0x00, 0x00, 0x5F, 0x0F, 0x3C, 0xF5,
    0x00, 0x00, 0x03, 0xE8] ++ List.replicate 34 0 ++ [0x00, 0x00, 0x50, 0x00, 0x00, 0x05]

def openSmall (profileLength : UInt8) : Opened :=
  (Choice.standard.options .default).openInstance
    (FileTree.initial.install (.ofString "f.ttf") (.file (.ordinary (smallFont profileLength))))
    ⟨.ofString "f.ttf", 0, .ofNat 10, 0⟩

def Instance.counts (i : Instance) : Nat × Binding := (i.glyphCount, i.shaper.value.binding)

/-- A font that is whole opens with five glyphs in both backends. -/
theorem engine_agrees_smallFont :
    ∃ i, (openSmall 6).1 = .ok i ∧ i.counts = (5, .engine 0 1000 5) ∧ i.faceIndex = 0 ∧
      ∃ d theirs, i.Shares d theirs ∧ d.Counts (Shaping.countIn d.file theirs) := by
  obtain ⟨i, opened, counts⟩ : ∃ i, (openSmall 6).1 = .ok i ∧ i.counts = (5, .engine 0 1000 5) :=
    exists_ok_of_map (by decide +kernel)
  obtain ⟨first, d, theirs, shares, agree, -⟩ := engine_agrees rfl rfl opened
  obtain ⟨glyphs, binding⟩ := Prod.mk.inj counts
  rw [shares.bound] at binding
  injection binding with _ _ same
  exact ⟨i, opened, counts, first, d, theirs, shares, agree.1 (glyphs.trans same.symm)⟩

/-- A byte more in the length of its profile, and the outlines have no glyphs while the engine has
five. -/
theorem engine_miscounts_cut_font :
    ∃ i, (openSmall 7).1 = .ok i ∧ i.glyphCount = 0 ∧
      i.shaper.value.binding = .engine 0 1000 5 := by
  obtain ⟨i, opened, counts⟩ : ∃ i, (openSmall 7).1 = .ok i ∧ i.counts = (0, .engine 0 1000 5) :=
    exists_ok_of_map (by decide +kernel)
  obtain ⟨glyphs, binding⟩ := Prod.mk.inj counts
  exact ⟨i, opened, glyphs, binding⟩

end SizedFace
