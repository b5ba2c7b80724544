import SizedFace.Proofs.Advances

namespace SizedFace

namespace Sfnt

namespace Directory

/-- The tags of the records never descend. -/
def Ascending (records : List TableRecord) : Prop :=
  records.Pairwise fun a b => a.tag.toNat ≤ b.tag.toNat

/-- The record that answers for a tag: where the tags ascend the last one with it, and elsewhere the
first one. -/
def Answers (d : Directory) (tag : Tag) (r : TableRecord) : Prop :=
  ∃ before after, d.records = before ++ r :: after ∧ r.tag = tag ∧
    ((Ascending d.records ∧ ∀ s ∈ after, s.tag ≠ tag) ∨
      (¬ Ascending d.records ∧ ∀ s ∈ before, s.tag ≠ tag))

theorem ascending_iff (records : List TableRecord) :
    ascending records = true ↔ Ascending records := by
  unfold Ascending
  fun_induction ascending records with
  | case1 a b rest ih =>
    rw [Bool.and_eq_true, ih, decide_eq_true_iff]
    constructor
    · rintro ⟨le, later⟩
      refine List.pairwise_cons.2 ⟨fun s mem => ?_, later⟩
      rcases List.mem_cons.1 mem with rfl | mem
      · exact le
      · exact Nat.le_trans le (List.rel_of_pairwise_cons later mem)
    · intro whole
      exact ⟨List.rel_of_pairwise_cons whole List.mem_cons_self, whole.of_cons⟩
  | case2 records short =>
    cases records with
    | nil => simp
    | cons a rest =>
      cases rest with
      | nil => simp
      | cons b rest => exact (short a b rest rfl).elim

theorem record?_eq_some {d : Directory} {tag : Tag} {r : TableRecord} :
    d.record? tag = some r ↔ d.Answers tag r := by
  unfold record? Answers
  by_cases order : Ascending d.records
  · rw [if_pos ((ascending_iff _).2 order), List.find?_eq_some_iff_append]
    simp only [order, true_and, not_true_eq_false, false_and, or_false]
    constructor
    · rintro ⟨own, after, before, split, others⟩
      refine ⟨before.reverse, after.reverse, ?_, by simpa using own, ?_⟩
      · rw [← List.reverse_inj, split]
        simp
      · intro s mem
        simpa using others s (List.mem_reverse.1 mem)
    · rintro ⟨before, after, split, own, others⟩
      refine ⟨by simpa using own, after.reverse, before.reverse, ?_, ?_⟩
      · rw [split]
        simp
      · intro s mem
        simpa using others s (List.mem_reverse.1 mem)
  · rw [if_neg (mt (ascending_iff _).1 order), List.find?_eq_some_iff_append]
    simp only [order, false_and, not_false_eq_true, true_and, false_or]
    constructor
    · rintro ⟨own, before, after, split, others⟩
      exact ⟨before, after, split, by simpa using own, fun s mem => by simpa using others s mem⟩
    · rintro ⟨before, after, split, own, others⟩
      exact ⟨by simpa using own, before, after, split, fun s mem => by simpa using others s mem⟩

/-- The record that answers for a tag gives a range of the file: it does not start at zero, and it
ends inside the file. -/
structure Resolves (d : Directory) (tag : Tag) (start length : Nat) : Prop where
  answers : ∃ r, d.Answers tag r ∧ r.offset = start ∧ r.length = length
  started : start ≠ 0
  inside : start + length ≤ d.file.size

theorem table?_eq_slice {d : Directory} {tag : Tag} {bytes : Bytes} :
    d.table? tag = some bytes ↔
      ∃ start length, d.Resolves tag start length ∧ bytes = d.file.slice start length := by
  rw [table?_eq_some]
  constructor
  · rintro ⟨r, found, started, inside, rfl⟩
    exact ⟨_, _, ⟨⟨r, record?_eq_some.1 found, rfl, rfl⟩, started, inside⟩, rfl⟩
  · rintro ⟨_, _, ⟨⟨r, answers, rfl, rfl⟩, started, inside⟩, rfl⟩
    exact ⟨r, record?_eq_some.2 answers, started, inside, rfl⟩

theorem table?_eq_none_iff {d : Directory} {tag : Tag} :
    d.table? tag = none ↔ ∀ start length, ¬ d.Resolves tag start length := by
  rw [Option.eq_none_iff_forall_ne_some]
  constructor
  · intro none start length resolves
    exact none _ (table?_eq_slice.2 ⟨start, length, resolves, rfl⟩)
  · intro unresolved bytes found
    obtain ⟨start, length, resolves, -⟩ := table?_eq_slice.1 found
    exact unresolved start length resolves

end Directory

/-- A run of bytes is the part of a file at a place, with no byte from elsewhere. -/
structure IsPart (part file : Bytes) (start length : Nat) : Prop where
  inside : start + length ≤ file.size
  size : part.size = length
  bytes : ∀ k < length, part.get? k = file.get? (start + k)

theorem isPart_slice {file : Bytes} {start length : Nat} (inside : start + length ≤ file.size) :
    IsPart (file.slice start length) file start length where
  inside := inside
  size := Bytes.size_slice file start length
  bytes _ below := Bytes.get?_slice file below inside

/-- Where the answer for a tag comes from: the face itself, a companion that is a single face, or
nowhere. -/
inductive Supplies (d : Directory) (companion : Option Bytes) (tag : Tag) :
    Option Bytes → Prop where
  | own {start length : Nat} (resolves : d.Resolves tag start length) :
    Supplies d companion tag (some (d.file.slice start length))
  | companion {more : Bytes} {e : Directory} {start length : Nat}
    (unresolved : ∀ start length, ¬ d.Resolves tag start length) (given : companion = some more)
    (single : FontFile.read more = .ok (.single e)) (resolves : e.Resolves tag start length) :
    Supplies d companion tag (some (more.slice start length))
  | nowhere (unresolved : ∀ start length, ¬ d.Resolves tag start length)
    (unsupplied : ∀ more e, companion = some more → FontFile.read more = .ok (.single e) →
      ∀ start length, ¬ e.Resolves tag start length) :
    Supplies d companion tag none

theorem companionFace_eq_some {companion : Option Bytes} {e : Directory} :
    (companionFace companion).1 = some e ↔
      ∃ more, companion = some more ∧ FontFile.read more = .ok (.single e) := by
  cases companion with
  | none => simp [companionFace]
  | some more =>
    simp only [Option.some.injEq, exists_eq_left', FontFile.read_eq_single, companionFace]
    cases Directory.read more 0 <;> simp

theorem companion_table?_eq_some {companion : Option Bytes} {tag : Tag} {bytes : Bytes} :
    ((companionFace companion).1.bind fun e => e.table? tag) = some bytes ↔
      ∃ more e start length, companion = some more ∧ FontFile.read more = .ok (.single e) ∧
        e.Resolves tag start length ∧ bytes = more.slice start length := by
  rw [Option.bind_eq_some_iff]
  constructor
  · rintro ⟨e, supplier, found⟩
    obtain ⟨more, given, single⟩ := companionFace_eq_some.1 supplier
    obtain ⟨start, length, resolves, rfl⟩ := Directory.table?_eq_slice.1 found
    obtain ⟨rfl, -⟩ := Directory.read_eq_ok.1 (FontFile.read_eq_single.1 single)
    exact ⟨e.file, e, start, length, given, single, resolves, rfl⟩
  · rintro ⟨more, e, start, length, given, single, resolves, rfl⟩
    obtain ⟨rfl, -⟩ := Directory.read_eq_ok.1 (FontFile.read_eq_single.1 single)
    exact ⟨e, companionFace_eq_some.2 ⟨_, given, single⟩,
      Directory.table?_eq_slice.2 ⟨start, length, resolves, rfl⟩⟩

namespace Face

variable {data : Bytes} {companion : Option Bytes} {index : Nat} {face : Face}

theorem table_eq_iff (opened : Directory × Head) (tag : Tag) (answer : Option Bytes) :
    (ofDirectory companion opened).table tag = answer ↔
      Supplies opened.1 companion tag answer := by
  unfold table ofDirectory
  constructor
  · rintro rfl
    cases own : opened.1.table? tag with
    | some bytes =>
      obtain ⟨start, length, resolves, rfl⟩ := Directory.table?_eq_slice.1 own
      exact .own resolves
    | none =>
      have unresolved := Directory.table?_eq_none_iff.1 own
      cases supplied : (companionFace companion).1.bind fun e => e.table? tag with
      | some bytes =>
        obtain ⟨more, e, start, length, given, single, resolves, rfl⟩ :=
          companion_table?_eq_some.1 supplied
        exact .companion unresolved given single resolves
      | none =>
        refine .nowhere unresolved fun more e given single start length resolves => ?_
        rw [companion_table?_eq_some.2 ⟨more, e, start, length, given, single, resolves, rfl⟩]
          at supplied
        cases supplied
  · intro supplies
    cases supplies with
    | own resolves =>
      rw [Directory.table?_eq_slice.2 ⟨_, _, resolves, rfl⟩]
    | companion unresolved given single resolves =>
      rw [Directory.table?_eq_none_iff.2 unresolved]
      exact companion_table?_eq_some.2 ⟨_, _, _, _, given, single, resolves, rfl⟩
    | nowhere unresolved unsupplied =>
      rw [Directory.table?_eq_none_iff.2 unresolved]
      refine Option.eq_none_iff_forall_ne_some.2 fun bytes supplied => ?_
      obtain ⟨more, e, start, length, given, single, resolves, -⟩ :=
        companion_table?_eq_some.1 supplied
      exact unsupplied more e given single start length resolves

/-- For every tag a face that is opened answers with the slice that the record of the tag gives,
else with the one that the companion's record gives, else with nothing. A record that starts at zero
or ends past its file gives nothing. So an answer is one part of the data or of the companion. -/
theorem table_of_ofData (opened : (ofData data companion index).1 = .ok face) :
    ∃ place d, BeginsAt data index place ∧ d.file = data ∧ d.Stands place ∧
      ∀ tag,
        (∀ answer, face.table tag = answer ↔ Supplies d companion tag answer) ∧
        ∀ bytes, face.table tag = some bytes →
          ∃ start length, IsPart bytes data start length ∨
            ∃ more, companion = some more ∧ IsPart bytes more start length := by
  rw [ofData_eq] at opened
  cases read : openDirectory data index with
  | error fault =>
    rw [read] at opened
    cases opened
  | ok directory =>
    rw [read] at opened
    cases opened
    obtain ⟨place, begins, rfl, stands, -⟩ := stands_of_openDirectory read
    refine ⟨place, directory.1, begins, rfl, stands, fun tag => ⟨table_eq_iff directory tag, ?_⟩⟩
    intro bytes found
    cases (table_eq_iff directory tag _).1 found with
    | own resolves => exact ⟨_, _, .inl (isPart_slice resolves.inside)⟩
    | companion unresolved given single resolves =>
      obtain ⟨rfl, -⟩ := Directory.read_eq_ok.1 (FontFile.read_eq_single.1 single)
      exact ⟨_, _, .inr ⟨_, given, isPart_slice resolves.inside⟩⟩

/-- A font of two tables, of which the second has its record start at a place of the file. -/
def postFont (start : UInt8) : Bytes := .ofList <|
  [0, 1, 0, 0, 0, 2, 0, 0, 0, 0, 0, 0] ++ shortRecord .head 44 54 ++ shortRecord .post start 4 ++
    [0, 1, 0, 0, 0, 0, 0, 0, 0, 0, 0, 0, 0x5F, 0x0F, 0x3C, 0xF5, 0, 0, 0x03, 0xE8] ++
    List.replicate 34 0 ++ [0, 3, 0, 0]

/-- The record that answers for the second table, the answer of the face, and how far it reaches. -/
def ofPost (face : Face) : Option TableRecord × Option Bytes × Nat :=
  (face.directory.record? .post, face.table .post, face.directory.file.size)

/-- A record that starts at zero gives way to the companion's. -/
theorem table_of_ofData_postFont :
    ∃ face place d, (ofData (postFont 0) (some (postFont 98)) 0).1 = .ok face ∧
      BeginsAt (postFont 0) 0 place ∧ d.Stands place ∧
      Supplies d (some (postFont 98)) .post (some ((postFont 98).slice 98 4)) := by
  obtain ⟨face, opened, shown⟩ : ∃ face, (ofData (postFont 0) (some (postFont 98)) 0).1 = .ok face ∧
      face.ofPost = (some ⟨.post, 0, 4⟩, some ((postFont 98).slice 98 4), 102) :=
    exists_ok_of_map (by decide +kernel)
  obtain ⟨-, supplied⟩ := Prod.mk.inj shown
  obtain ⟨found, -⟩ := Prod.mk.inj supplied
  obtain ⟨place, d, begins, -, stands, answers⟩ := table_of_ofData opened
  exact ⟨face, place, d, opened, begins, stands, ((answers .post).1 _).1 found⟩

/-- The range of the record lies inside the file, but it starts at zero: there is no table. -/
theorem table_none_of_inside :
    ∃ face r, (ofData (postFont 0) none 0).1 = .ok face ∧ face.directory.Answers .post r ∧
      r.offset + r.length ≤ face.directory.file.size ∧ face.table .post = none := by
  obtain ⟨face, opened, shown⟩ : ∃ face, (ofData (postFont 0) none 0).1 = .ok face ∧
      face.ofPost = (some ⟨.post, 0, 4⟩, none, 102) :=
    exists_ok_of_map (by decide +kernel)
  obtain ⟨record, rest⟩ := Prod.mk.inj shown
  obtain ⟨missing, size⟩ := Prod.mk.inj rest
  refine ⟨face, ⟨.post, 0, 4⟩, opened, Directory.record?_eq_some.1 record, ?_, missing⟩
  rw [size]
  decide

end Face

end Sfnt
end SizedFace
