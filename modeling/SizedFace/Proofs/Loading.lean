import SizedFace.Platform.NativeFont
import SizedFace.Proofs.FaceOpening
import SizedFace.Proofs.Independence

namespace SizedFace

/-- A file that reports the length of its content, and gives this content to whoever reads or maps
it. There is room for it in memory, and an empty one need not be mapped. -/
structure File.Holds (file : File) (content : Bytes) : Prop where
  size : file.size = content.size
  room : file.room = true
  reading : file.reading = .ok content
  mapping : 0 < content.size → file.mapping = .ok content

/-- If there is a file at the path, it holds a content. -/
def FileTree.Ordinary (tree : FileTree) (path : Path) : Prop :=
  ∀ file, tree.look path = .ok (.file file) → ∃ content, file.Holds content

namespace FontData

/-- How loading ends that comes upon something. Only a file above the limit is refused before its
content is asked for, and then nothing is said of the content. -/
structure Loading (config : LoadConfig) (path : Path) (found : Except AccessFault Node)
    (loaded : Except LoadFault FontData × List Notice) : Prop where
  missing : found = .error .missing → loaded.1 = .error (.notFound path)
  closed : ∀ fault, found = .error fault → fault ≠ .missing →
    loaded.1 = .error (.unreadable path fault)
  untold : ∀ fault, found = .ok (.untold fault) → loaded.1 = .error (.unreadable path fault)
  directory : found = .ok .directory → loaded.1 = .error (.unreadable path .isDirectory)
  above : ∀ file, found = .ok (.file file) → config.maxSize < file.size →
    loaded = (.error (.tooLarge path file.size config.maxSize), [])
  unmapped : ∀ file fault, found = .ok (.file file) → file.size ≤ config.maxSize →
    config.mapFiles = true → 0 < file.size → file.mapping = .error fault →
    loaded.1 = .error (.unreadable path fault)
  unreserved : ∀ file, found = .ok (.file file) → file.size ≤ config.maxSize →
    (config.mapFiles = true → file.size = 0) → file.room = false →
    loaded.1 = .error (.allocation file.size)
  unread : ∀ file fault, found = .ok (.file file) → file.size ≤ config.maxSize →
    (config.mapFiles = true → file.size = 0) → file.room = true → file.reading = .error fault →
    loaded.1 = .error (.unreadable path fault)
  content : ∀ file content, found = .ok (.file file) → file.Holds content →
    ((∃ data, loaded.1 = .ok data) ↔ content.size ≤ config.maxSize) ∧
    ∀ data, loaded.1 = .ok data → data.bytes = content ∧
      (data.mapped = true ↔ config.mapFiles = true ∧ 0 < content.size)

variable (path : Path) (config : LoadConfig)

theorem ofFile_above {file : File} (above : config.maxSize < file.size) :
    ofFile path config file = (.error (.tooLarge path file.size config.maxSize), []) :=
  if_pos above

theorem ofFile_mapping {file : File} (within : file.size ≤ config.maxSize)
    (maps : config.mapFiles = true) (some : 0 < file.size) :
    (ofFile path config file).1 =
      match file.mapping with
      | .error fault => .error (.unreadable path fault)
      | .ok bytes => .ok ⟨bytes, true⟩ := by
  rw [ofFile, if_neg (Nat.not_lt.2 within), if_pos (by simp [maps, some])]
  cases file.mapping <;> rfl

theorem ofFile_reading {file : File} (within : file.size ≤ config.maxSize)
    (reads : config.mapFiles = true → file.size = 0) :
    (ofFile path config file).1 =
      if file.room then
        match file.reading with
        | .error fault => .error (.unreadable path fault)
        | .ok bytes => .ok ⟨bytes, false⟩
      else .error (.allocation file.size) := by
  have unmapped : ¬ (config.mapFiles && decide (0 < file.size)) = true := by
    simp only [Bool.and_eq_true, decide_eq_true_eq, not_and]
    intro maps some
    exact absurd (reads maps) (Nat.ne_of_gt some)
  rw [ofFile, if_neg (Nat.not_lt.2 within), if_neg unmapped]
  cases file.room <;> cases file.reading <;> rfl

/-- The content of a file within the limit is loaded, and mapped where that is wanted and can be. -/
theorem ofFile_of_holds {file : File} {content : Bytes} (holds : file.Holds content)
    (within : content.size ≤ config.maxSize) :
    (ofFile path config file).1 = .ok ⟨content, config.mapFiles && decide (0 < content.size)⟩ := by
  have size := holds.size
  by_cases maps : config.mapFiles = true ∧ 0 < content.size
  · obtain ⟨wanted, some⟩ := maps
    rw [ofFile_mapping path config (by omega) wanted (by omega), holds.mapping some]
    simp [wanted, some]
  · have reads : config.mapFiles = true → file.size = 0 := by
      intro wanted
      have none : ¬ 0 < content.size := fun some => maps ⟨wanted, some⟩
      omega
    rw [ofFile_reading path config (by omega) reads, if_pos holds.room, holds.reading]
    simpa using maps

theorem loading (tree : FileTree) :
    Loading config path (tree.look path) (load tree path config) := by
  unfold load
  refine ⟨?_, ?_, ?_, ?_, ?_, ?_, ?_, ?_, ?_⟩
  · intro missing
    rw [missing]
    rfl
  · intro fault closed other
    rw [closed]
    simp only [other, if_false]
  · intro fault untold
    rw [untold]
  · intro directory
    rw [directory]
  · intro file found above
    rw [found]
    exact ofFile_above path config above
  · intro file fault found within maps some failed
    rw [found]
    simp only [ofFile_mapping path config within maps some, failed]
  · intro file found within reads full
    rw [found]
    simp only [ofFile_reading path config within reads, full, Bool.false_eq_true, if_false]
  · intro file fault found within reads room failed
    rw [found]
    simp only [ofFile_reading path config within reads, room, if_true, failed]
  · intro file content found holds
    rw [found]
    by_cases within : content.size ≤ config.maxSize
    · simp only [ofFile_of_holds path config holds within]
      refine ⟨iff_of_true ⟨_, rfl⟩ within, fun data same => ?_⟩
      obtain rfl := Except.ok.inj same
      simp
    · have above : config.maxSize < file.size := holds.size ▸ Nat.lt_of_not_le within
      simp only [ofFile_above path config above]
      simp [within]

/-- The same data, as if it had been read. -/
def asRead (data : FontData) : FontData := { data with mapped := false }

theorem ofFile_asRead {file : File} {content : Bytes} (holds : file.Holds content)
    (mapFiles : Bool) :
    (ofFile path (config.withMapping mapFiles) file).1.map asRead =
      (ofFile path (config.withMapping false) file).1 := by
  by_cases within : content.size ≤ config.maxSize
  · have loaded (mapFiles : Bool) := ofFile_of_holds path (config.withMapping mapFiles) holds within
    rw [loaded, loaded]
    rfl
  · have above : config.maxSize < file.size := holds.size ▸ Nat.lt_of_not_le within
    have refused (mapFiles : Bool) := ofFile_above path (config.withMapping mapFiles) above
    rw [refused, refused]
    rfl

theorem load_asRead {tree : FileTree} (ordinary : tree.Ordinary path) (mapFiles : Bool) :
    (load tree path (config.withMapping mapFiles)).1.map asRead =
      (load tree path (config.withMapping false)).1 := by
  unfold load
  cases found : tree.look path with
  | error fault =>
    by_cases missing : fault = .missing
    · simp only [missing, if_true]
      rfl
    · simp only [missing, if_false]
      rfl
  | ok node =>
    cases node with
    | directory | closed _ | untold _ => rfl
    | file file =>
      obtain ⟨content, holds⟩ := ordinary file found
      exact ofFile_asRead path config holds mapFiles

end FontData

def Instance.asRead (i : Instance) : Instance :=
  { i with data := i.data.asRead, companion := i.companion.map FontData.asRead }

/-- The same answer, without telling which files are mapped. -/
def Answer.asRead : Answer → Answer
  | .summary s => .summary { s with data := s.data.asRead, companion := s.companion.map .asRead }
  | .data own more => .data own.asRead (more.map .asRead)
  | answer => answer

/-- Two instances that answer every question alike, but for which files are mapped. -/
def Instance.AnswersAlike (i j : Instance) : Prop :=
  ∀ vertical query,
    ((j.setVertical vertical).answer query).asRead = ((i.setVertical vertical).answer query).asRead

theorem Instance.answer_asRead (i : Instance) (query : Query) :
    i.asRead.answer query = (i.answer query).asRead := by
  cases query <;> rfl

theorem Instance.answersAlike_of_asRead {i j : Instance} (same : j.asRead = i.asRead) :
    i.AnswersAlike j := by
  intro vertical query
  rw [← answer_asRead, ← answer_asRead]
  exact congrArg (fun k => (k.setVertical vertical).answer query) same

namespace Options

/-- The backends go by the bytes of the data, and not by how they came. -/
structure ReadsBytes (o : Options) : Prop where
  outline : ∀ data companion index,
    o.outline.openFace (FontData.asRead data) (companion.map .asRead) index =
      o.outline.openFace data companion index
  shaping : ∀ data index unitsPerEm,
    o.shaping.createHandle (FontData.asRead data) index unitsPerEm =
      o.shaping.createHandle data index unitsPerEm
  platform : ∀ backend, o.platform = some backend → ∀ data index size,
    backend.attach (FontData.asRead data) index size = backend.attach data index size

/-- Every backend is one of this library or a scripted one. -/
structure Stocked (o : Options) : Prop where
  outline : o.outline = Sfnt.outlines ∨ ∃ s : Script, o.outline = s.outlines
  shaping : o.shaping ∈
    [Shaping.engine, Shaping.unshaped, Scripted.shaping, Scripted.refusingShaping]
  platform : ∀ backend, o.platform = some backend →
    (∃ system, backend = Platform.native system) ∨ backend = Scripted.refusingPlatform ∨
      ∃ variant, backend = Scripted.platform variant

theorem Stocked.readsBytes {o : Options} (stocked : o.Stocked) : o.ReadsBytes where
  outline data companion index := by
    have bytes : (companion.map .asRead).map FontData.bytes = companion.map (·.bytes) := by
      cases companion <;> rfl
    rcases stocked.outline with own | ⟨script, own⟩
    · rw [own]
      simp only [Sfnt.outlines, bytes]
      rfl
    · rw [own]
      simp only [Script.outlines, Script.face, bytes]
      rfl
  shaping data index unitsPerEm := by
    have own := stocked.shaping
    simp only [List.mem_cons, List.not_mem_nil, or_false] at own
    rcases own with own | own | own | own <;> rw [own] <;> rfl
  platform backend wanted data index size := by
    rcases stocked.platform backend wanted with ⟨system, rfl⟩ | rfl | ⟨variant, rfl⟩ <;> rfl

def withMapping (o : Options) (mapFiles : Bool) : Options :=
  { o with config := o.config.withMapping mapFiles }

variable {o : Options} (reads : o.ReadsBytes) (r : Request) (data : FontData)
  (companion : Option FontData)

include reads

theorem attach_asRead (face : Possession OutlineFace) (shaper : Possession ShapingHandle) :
    (o.attach r data.asRead (companion.map .asRead) face shaper).1 =
      (o.attach r data companion face shaper).1.map Instance.asRead := by
  unfold attach
  cases wanted : o.platform with
  | none => rfl
  | some backend =>
    simp only [reads.platform backend wanted]
    rcases backend.attach data r.faceIndex r.pointSize with ⟨fault | resources, said⟩ <;> rfl

theorem shape_asRead (face : Possession OutlineFace) :
    (o.shape r data.asRead (companion.map .asRead) face).1 =
      (o.shape r data companion face).1.map Instance.asRead := by
  unfold shape
  simp only [reads.shaping]
  rcases o.shaping.createHandle data r.faceIndex face.value.metrics.unitsPerEm with
    ⟨fault | shaper, said⟩
  · rfl
  · exact attach_asRead reads r data companion face _

theorem outlineStage_asRead :
    (o.outlineStage r data.asRead (companion.map .asRead)).1 =
      (o.outlineStage r data companion).1.map Instance.asRead := by
  unfold outlineStage
  simp only [reads.outline]
  rcases o.outline.openFace data companion r.faceIndex with ⟨fault | face, said⟩
  · rfl
  · by_cases grid : face.metrics.unitsPerEm = 0
    · simp only [grid, if_true]
      rfl
    · simp only [grid, if_false]
      exact shape_asRead reads r data companion _

omit reads

theorem loadCompanion_asRead (o : Options) {tree : FileTree}
    (ordinary : ∀ path, o.companion = some path → tree.Ordinary path) (mapFiles : Bool) :
    ((o.withMapping mapFiles).loadCompanion tree).1.map FontData.asRead =
      ((o.withMapping false).loadCompanion tree).1 := by
  have loaded (mapFiles : Bool) : ((o.withMapping mapFiles).loadCompanion tree).1 =
      o.companion.bind fun path =>
        (FontData.load tree path (o.config.withMapping mapFiles)).1.toOption := by
    unfold loadCompanion withMapping
    cases o.companion with
    | none => rfl
    | some path =>
      simp only [Option.bind_some]
      rcases FontData.load tree path (o.config.withMapping mapFiles) with ⟨fault | data, said⟩ <;>
        rfl
  rw [loaded, loaded]
  cases wanted : o.companion with
  | none => rfl
  | some path =>
    rw [Option.bind_some, Option.bind_some,
      ← FontData.load_asRead path o.config (ordinary path wanted) mapFiles]
    cases (FontData.load tree path (o.config.withMapping mapFiles)).1 <;> rfl

theorem openInstance_fst (o : Options) (tree : FileTree) (r : Request) :
    (o.openInstance tree r).1 =
      if isPointSize r.pointSize then
        match (FontData.load tree r.path o.config).1 with
        | .error fault => .error (.load fault)
        | .ok data => (o.outlineStage r data (o.loadCompanion tree).1).1
      else .error (.load (.pointSize r.pointSize)) := by
  unfold openInstance
  split
  · rcases FontData.load tree r.path o.config with ⟨fault | data, said⟩ <;> rfl
  · rfl

/-- Opening with files that are mapped comes to the same instance, as if they had been read. -/
theorem openInstance_asRead {o : Options} (reads : o.ReadsBytes) {tree : FileTree} {r : Request}
    (primary : tree.Ordinary r.path)
    (companion : ∀ path, o.companion = some path → tree.Ordinary path) (mapFiles : Bool) :
    ((o.withMapping mapFiles).openInstance tree r).1.map Instance.asRead =
      ((o.withMapping false).openInstance tree r).1 := by
  have loaded : (FontData.load tree r.path (o.withMapping mapFiles).config).1.map .asRead =
      (FontData.load tree r.path (o.withMapping false).config).1 :=
    FontData.load_asRead r.path o.config primary mapFiles
  rw [openInstance_fst, openInstance_fst, ← loaded, ← o.loadCompanion_asRead companion mapFiles]
  by_cases sized : isPointSize r.pointSize = true
  · rw [if_pos sized, if_pos sized]
    cases (FontData.load tree r.path (o.withMapping mapFiles).config).1 with
    | error fault => rfl
    | ok data => exact (outlineStage_asRead reads r data _).symm
  · rw [if_neg sized, if_neg sized]
    rfl

end Options

def Choice.withMapping (c : Choice) (environment : LoadConfig) (mapFiles : Bool) : Choice :=
  { c with config := some ((c.config.getD environment).withMapping mapFiles) }

def Outcome.asRead : Outcome → Outcome
  | .answered answer => .answered answer.asRead
  | outcome => outcome

namespace Session

/-- The session once a slot was opened, with files that are mapped or read. -/
def opening (s : Session) (slot : String) (choice : Choice) (path : Path) (faceIndex : Nat)
    (size : Binary32) (mapFiles : Bool) : Session :=
  (s.advance (.openInstance slot (choice.withMapping s.config mapFiles) path faceIndex size)).1

theorem asRead_ask (s : Session) (slot : String) (query : Query) :
    (s.advance (.ask slot query)).2.asRead =
      (((s.slot? slot).map Instance.asRead).map fun i => .answered (i.answer query)).getD
        .vacant := by
  cases held : s.slot? slot with
  | none =>
    simp only [advance, held]
    rfl
  | some i =>
    simp only [advance, held]
    exact congrArg Outcome.answered (i.answer_asRead query).symm

theorem slot?_opening_asRead (s : Session) (slot : String) {choice : Choice} {path : Path}
    (faceIndex : Nat) (size : Binary32) (reads : (choice.options s.config).ReadsBytes)
    (primary : s.tree.Ordinary path)
    (companion : ∀ path, choice.companion = some path → s.tree.Ordinary path) (mapFiles : Bool) :
    ((s.opening slot choice path faceIndex size mapFiles).slot? slot).map Instance.asRead =
      (s.opening slot choice path faceIndex size false).slot? slot := by
  let r := s.request path faceIndex size
  have attempted (mapFiles : Bool) :
      s.attempt (choice.withMapping s.config mapFiles) path faceIndex size =
        ((choice.options s.config).withMapping mapFiles).openInstance s.tree r := rfl
  have mapped : (((choice.options s.config).withMapping mapFiles).openInstance s.tree r).1.map
      Instance.asRead = (((choice.options s.config).withMapping false).openInstance s.tree r).1 :=
    Options.openInstance_asRead reads primary companion mapFiles
  unfold opening
  rw [slot?_advance_openInstance, slot?_advance_openInstance, attempted, attempted, ← mapped]
  cases (((choice.options s.config).withMapping mapFiles).openInstance s.tree r).1 <;> rfl

end Session

/-- What is found at a path decides how loading it ends: with the whole content of a file, mapped
where that is wanted and the file is not empty, if the content is within the limit, and with a fault
otherwise. Whether files that hold their content are mapped makes no difference to their bytes, nor
to the fault; and backends that go by the bytes, as all backends at hand do, then open instances
that answer alike, or fail alike. They go on answering alike for as long as no file that they map is
changed in place. -/
theorem FontData.load_decided (tree : FileTree) :
    (∀ path config, Loading config path (tree.look path) (load tree path config)) ∧
    (∀ path (config : LoadConfig), tree.Ordinary path → ∀ mapFiles mapFiles',
      (load tree path (config.withMapping mapFiles)).1.map (·.bytes) =
        (load tree path (config.withMapping mapFiles')).1.map (·.bytes)) ∧
    (∀ o : Options, o.Stocked → o.ReadsBytes) ∧
    (∀ (o : Options) (r : Request), o.ReadsBytes → tree.Ordinary r.path →
      (∀ path, o.companion = some path → tree.Ordinary path) →
      ∀ mapFiles mapFiles', EndAlike Instance.AnswersAlike
        ((o.withMapping mapFiles).openInstance tree r).1
        ((o.withMapping mapFiles').openInstance tree r).1) ∧
    ∀ (s : Session) (slot : String) (choice : Choice) path faceIndex size, s.tree = tree →
      (choice.options s.config).ReadsBytes → tree.Ordinary path →
      (∀ path, choice.companion = some path → tree.Ordinary path) →
      ∀ mapFiles mapFiles' steps,
        let opened := s.opening slot choice path faceIndex size
        (opened mapFiles).Undisturbed slot steps → (opened mapFiles').Undisturbed slot steps →
        (∀ step ∈ steps, step.ends slot = false) → ∀ query,
          (((opened mapFiles).run steps).1.advance (.ask slot query)).2.asRead =
            (((opened mapFiles').run steps).1.advance (.ask slot query)).2.asRead := by
  refine ⟨fun path config => loading path config tree, ?_, fun o => Options.Stocked.readsBytes,
    ?_, ?_⟩
  · intro path config ordinary mapFiles mapFiles'
    have bytes (mapFiles : Bool) : (load tree path (config.withMapping mapFiles)).1.map (·.bytes) =
        (load tree path (config.withMapping false)).1.map (·.bytes) := by
      rw [← load_asRead path config ordinary mapFiles]
      cases (load tree path (config.withMapping mapFiles)).1 <;> rfl
    exact (bytes mapFiles).trans (bytes mapFiles').symm
  · intro o r reads primary companion mapFiles mapFiles'
    have mapped := Options.openInstance_asRead reads primary companion
    exact endAlike_of_map ((mapped mapFiles').trans (mapped mapFiles).symm)
      Instance.answersAlike_of_asRead
  · rintro s slot choice path faceIndex size rfl reads primary companion mapFiles mapFiles' steps
      opened calm calm' kept query
    have same := s.slot?_opening_asRead slot faceIndex size reads primary companion
    have later {mapFiles : Bool} (calm : (opened mapFiles).Undisturbed slot steps) :
        (((opened mapFiles).run steps).1.slot? slot).map Instance.asRead =
          ((opened false).slot? slot).map fun i =>
            i.setVertical (Step.direction slot i.vertical steps) := by
      rw [Session.slot?_run kept calm, ← same mapFiles, Option.map_map, Option.map_map]
      rfl
    rw [Session.asRead_ask, Session.asRead_ask, later calm, later calm']

end SizedFace
