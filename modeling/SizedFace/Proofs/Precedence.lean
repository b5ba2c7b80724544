import SizedFace.Proofs.Opening

namespace SizedFace

/-- What an opening asks of the files and of its backends. -/
inductive Call where
  | load (path : Path)
  | openFace (data : FontData) (companion : Option FontData) (index : Nat)
  | createHandle (data : FontData) (index unitsPerEm : Nat)
  | attach (data : FontData) (index : Nat) (size : Binary32)

/-- The status code that all faults of a stage have, if they have one in common. -/
def Stage.code? : Stage → Option Nat
  | .size => some 8
  | .grid => some 7
  | .shaping => some 9
  | .platform => some 10
  | .data | .outline => none

namespace Options

section Course

variable (o : Options) (tree : FileTree) (r : Request)

/-- The point size is accepted and the file is loaded. -/
structure Loads (data : FontData) : Prop where
  sized : isPointSize r.pointSize = true
  loaded : (FontData.load tree r.path o.config).1 = .ok data

/-- The outline backend has opened a face as well. -/
structure Faces (data : FontData) (face : OutlineFace) : Prop extends o.Loads tree r data where
  opened : (o.outline.openFace data (o.loadCompanion tree).1 r.faceIndex).1 = .ok face

/-- The face has a grid, and the shaping backend has made a handle as well. -/
structure Shapes (data : FontData) (face : OutlineFace) (shaper : ShapingHandle) : Prop
    extends o.Faces tree r data face where
  grid : 0 < face.metrics.unitsPerEm
  shaped : (o.shaping.createHandle data r.faceIndex face.metrics.unitsPerEm).1 = .ok shaper

/-- A stage fails with a fault, and all stages before it went well. -/
inductive Fails : Stage → OpenFault → Prop where
  | size (refused : isPointSize r.pointSize = false) : Fails .size (.load (.pointSize r.pointSize))
  | data {fault : LoadFault} (sized : isPointSize r.pointSize = true)
      (unloaded : (FontData.load tree r.path o.config).1 = .error fault) :
      Fails .data (.load fault)
  | outline {data : FontData} {fault : LoadFault} (loads : o.Loads tree r data)
      (refused : (o.outline.openFace data (o.loadCompanion tree).1 r.faceIndex).1 = .error fault) :
      Fails .outline (.load fault)
  | grid {data : FontData} {face : OutlineFace} (faces : o.Faces tree r data face)
      (gridless : face.metrics.unitsPerEm = 0) :
      Fails .grid (.load (.metrics (.zeroReported o.outline.name r.path)))
  | shaping {data : FontData} {face : OutlineFace} {fault : BackendFault}
      (faces : o.Faces tree r data face) (grid : 0 < face.metrics.unitsPerEm)
      (refused : (o.shaping.createHandle data r.faceIndex face.metrics.unitsPerEm).1 =
        .error fault) :
      Fails .shaping (.load (.backend fault))
  | platform {data : FontData} {face : OutlineFace} {shaper : ShapingHandle}
      {backend : PlatformBackend} {fault : BackendFault} (shapes : o.Shapes tree r data face shaper)
      (wanted : o.platform = some backend)
      (refused : (backend.attach data r.faceIndex r.pointSize).1 = .error fault) :
      Fails .platform (.platform fault)

/-- What is asked, each thing only when what it needs is there: the files after the point size, the
outline backend with loaded data, the shaping backend with the grid of a face, and the platform once
there is a shaping handle. -/
inductive Asks : Call → Prop where
  | primary (sized : isPointSize r.pointSize = true) : Asks (.load r.path)
  | companion {data : FontData} {path : Path} (loads : o.Loads tree r data)
      (wanted : o.companion = some path) : Asks (.load path)
  | openFace {data : FontData} (loads : o.Loads tree r data) :
      Asks (.openFace data (o.loadCompanion tree).1 r.faceIndex)
  | createHandle {data : FontData} {face : OutlineFace} (faces : o.Faces tree r data face)
      (grid : 0 < face.metrics.unitsPerEm) :
      Asks (.createHandle data r.faceIndex face.metrics.unitsPerEm)
  | attach {data : FontData} {face : OutlineFace} {shaper : ShapingHandle}
      (shapes : o.Shapes tree r data face shaper) :
      Asks (.attach data r.faceIndex r.pointSize)

/-- Other choices over another tree answer a call in the same way. -/
def SameAnswer (other : Options) (tree' : FileTree) : Call → Prop
  | .load path => FontData.load tree' path other.config = FontData.load tree path o.config
  | .openFace data companion index =>
    other.outline.openFace data companion index = o.outline.openFace data companion index
  | .createHandle data index unitsPerEm =>
    other.shaping.createHandle data index unitsPerEm = o.shaping.createHandle data index unitsPerEm
  | .attach data index size =>
    other.platform.map (·.attach data index size) = o.platform.map (·.attach data index size)

/-- Other choices over another tree that cannot be told apart by what is asked for a request: the
same companion and the same makers, and the same answer to everything that is asked. -/
structure Mimics (other : Options) (tree' : FileTree) : Prop where
  companion : other.companion = o.companion
  outline : other.outline.maker = o.outline.maker
  shaping : other.shaping.maker = o.shaping.maker
  platform : other.platform.map (·.maker) = o.platform.map (·.maker)
  answers : ∀ call, o.Asks tree r call → o.SameAnswer tree other tree' call

end Course

variable {o : Options} {tree : FileTree} {r : Request} {data : FontData} {face : OutlineFace}
  {shaper : ShapingHandle}

theorem Loads.openInstance (h : o.Loads tree r data) :
    (o.openInstance tree r).1 = (o.outlineStage r data (o.loadCompanion tree).1).1 := by
  have loaded := h.loaded
  unfold Options.openInstance
  rw [if_pos h.sized]
  rcases loading : FontData.load tree r.path o.config with ⟨result, said⟩
  rw [loading] at loaded
  subst loaded
  rfl

theorem Faces.openInstance (h : o.Faces tree r data face) :
    (o.openInstance tree r).1 =
      if face.metrics.unitsPerEm = 0 then
        .error (.load (.metrics (.zeroReported o.outline.name r.path)))
      else (o.shape r data (o.loadCompanion tree).1 ⟨face, r.handle .face o.outline.maker⟩).1 := by
  have opened := h.opened
  rw [h.toLoads.openInstance, outlineStage]
  rcases opening : o.outline.openFace data (o.loadCompanion tree).1 r.faceIndex with ⟨result, said⟩
  rw [opening] at opened
  subst opened
  simp only
  split <;> rfl

theorem Shapes.openInstance (h : o.Shapes tree r data face shaper) :
    (o.openInstance tree r).1 =
      (o.attach r data (o.loadCompanion tree).1 ⟨face, r.handle .face o.outline.maker⟩
        ⟨shaper, r.handle .shaper o.shaping.maker⟩).1 := by
  have shaped := h.shaped
  rw [h.toFaces.openInstance, if_neg (Nat.ne_of_gt h.grid), shape]
  rcases making : o.shaping.createHandle data r.faceIndex face.metrics.unitsPerEm with
    ⟨result, said⟩
  rw [making] at shaped
  subst shaped
  rfl

/-- Where a stage fails after those before it went well, the opening fails with its fault. -/
theorem Fails.openInstance {stage : Stage} {fault : OpenFault} (h : o.Fails tree r stage fault) :
    (o.openInstance tree r).1 = .error fault := by
  cases h with
  | size refused =>
    unfold Options.openInstance
    rw [refused]
    rfl
  | data sized unloaded =>
    unfold Options.openInstance
    rw [if_pos sized]
    rcases loading : FontData.load tree r.path o.config with ⟨result, said⟩
    rw [loading] at unloaded
    subst unloaded
    rfl
  | @outline data fault loads refused =>
    rw [loads.openInstance, outlineStage]
    rcases opening : o.outline.openFace data (o.loadCompanion tree).1 r.faceIndex with
      ⟨result, said⟩
    rw [opening] at refused
    subst refused
    rfl
  | @grid data face faces gridless =>
    rw [faces.openInstance, if_pos gridless]
  | @shaping data face fault faces grid refused =>
    rw [faces.openInstance, if_neg (Nat.ne_of_gt grid), shape]
    rcases making : o.shaping.createHandle data r.faceIndex face.metrics.unitsPerEm with
      ⟨result, said⟩
    rw [making] at refused
    subst refused
    rfl
  | @platform data face shaper backend fault shapes wanted refused =>
    rw [shapes.openInstance, attach, wanted]
    rcases attaching : backend.attach data r.faceIndex r.pointSize with ⟨result, said⟩
    rw [attaching] at refused
    subst refused
    simp only [attaching]

/-- An opening goes through, or a stage fails after those before it went well. -/
def Ends (o : Options) (tree : FileTree) (r : Request) : Prop :=
  (∃ i, (o.openInstance tree r).1 = .ok i) ∨ ∃ stage fault, o.Fails tree r stage fault

/-- Once there is a shaping handle, only a platform can still refuse. -/
theorem Shapes.ends (h : o.Shapes tree r data face shaper) : o.Ends tree r := by
  cases wanted : o.platform with
  | none =>
    left
    rw [h.openInstance, Options.attach, wanted]
    exact ⟨_, rfl⟩
  | some backend =>
    rcases attaching : backend.attach data r.faceIndex r.pointSize with ⟨fault | resources, said⟩
    · right
      exact ⟨_, _, .platform h wanted (by rw [attaching])⟩
    · left
      rw [h.openInstance, Options.attach, wanted]
      simp only [attaching]
      exact ⟨_, rfl⟩

theorem Faces.ends (h : o.Faces tree r data face) : o.Ends tree r := by
  rcases Nat.eq_zero_or_pos face.metrics.unitsPerEm with gridless | grid
  · exact .inr ⟨_, _, .grid h gridless⟩
  · cases shaped : (o.shaping.createHandle data r.faceIndex face.metrics.unitsPerEm).1 with
    | error fault => exact .inr ⟨_, _, .shaping h grid shaped⟩
    | ok shaper =>
      have shapes : o.Shapes tree r data face shaper := ⟨h, grid, shaped⟩
      exact shapes.ends

theorem Loads.ends (h : o.Loads tree r data) : o.Ends tree r := by
  cases opened : (o.outline.openFace data (o.loadCompanion tree).1 r.faceIndex).1 with
  | error fault => exact .inr ⟨_, _, .outline h opened⟩
  | ok face =>
    have faces : o.Faces tree r data face := ⟨h, opened⟩
    exact faces.ends

theorem openInstance_ends (o : Options) (tree : FileTree) (r : Request) : o.Ends tree r := by
  cases sized : isPointSize r.pointSize with
  | false => exact .inr ⟨_, _, .size sized⟩
  | true =>
    cases loaded : (FontData.load tree r.path o.config).1 with
    | error fault => exact .inr ⟨_, _, .data sized loaded⟩
    | ok data =>
      have loads : o.Loads tree r data := ⟨sized, loaded⟩
      exact loads.ends

theorem openInstance_eq_error {fault : OpenFault} :
    (o.openInstance tree r).1 = .error fault ↔ ∃ stage, o.Fails tree r stage fault := by
  constructor
  · intro failed
    rcases o.openInstance_ends tree r with ⟨i, opened⟩ | ⟨stage, why, fails⟩
    · rw [opened] at failed
      cases failed
    · have same := fails.openInstance
      rw [failed] at same
      obtain rfl := Except.error.inj same
      exact ⟨stage, fails⟩
  · intro held
    obtain ⟨stage, fails⟩ := held
    exact fails.openInstance

theorem openInstance_eq_ok :
    (∃ i, (o.openInstance tree r).1 = .ok i) ↔ ∀ stage fault, ¬ o.Fails tree r stage fault := by
  constructor
  · intro held stage fault fails
    obtain ⟨i, opened⟩ := held
    rw [fails.openInstance] at opened
    cases opened
  · intro none
    rcases o.openInstance_ends tree r with opened | ⟨stage, fault, fails⟩
    · exact opened
    · exact absurd fails (none stage fault)

theorem Fails.code {stage : Stage} {fault : OpenFault} (h : o.Fails tree r stage fault) {code : Nat}
    (common : stage.code? = some code) : fault.code = code := by
  cases h <;> cases common <;> rfl

/-- A companion that cannot be loaded is as good as none. -/
theorem openInstance_of_companion_none (gone : (o.loadCompanion tree).1 = none) :
    (o.openInstance tree r).1 = ({ o with companion := none }.openInstance tree r).1 := by
  have without : ({ o with companion := none } : Options).loadCompanion tree = (none, []) := rfl
  unfold Options.openInstance
  rcases loading : FontData.load tree r.path o.config with ⟨fault | data, said⟩
  · rfl
  · simp only [gone, without]
    split <;> rfl

namespace Mimics

variable {other : Options} {tree' : FileTree} {companion : Option FontData}

theorem outline_name (h : o.Mimics tree r other tree') : other.outline.name = o.outline.name :=
  congrArg Maker.name h.outline

theorem loadCompanion (h : o.Mimics tree r other tree') (loads : o.Loads tree r data) :
    other.loadCompanion tree' = o.loadCompanion tree := by
  unfold Options.loadCompanion
  rw [h.companion]
  cases wanted : o.companion with
  | none => rfl
  | some path =>
    have same := h.answers _ (.companion loads wanted)
    simp only [SameAnswer] at same
    simp only [same]

theorem attach (h : o.Mimics tree r other tree') (shapes : o.Shapes tree r data face shaper)
    (given : Possession OutlineFace) (held : Possession ShapingHandle) :
    other.attach r data companion given held = o.attach r data companion given held := by
  have same := h.answers _ (.attach shapes)
  have named := h.platform
  simp only [SameAnswer] at same
  unfold Options.attach
  cases theirs : other.platform <;> cases ours : o.platform <;>
    simp only [theirs, ours, Option.map_none, Option.map_some, reduceCtorEq, Option.some.injEq]
      at same named
  · simp only [h.outline_name]
  · simp only [same, named, h.outline_name]

theorem shape (h : o.Mimics tree r other tree') (faces : o.Faces tree r data face)
    (grid : 0 < face.metrics.unitsPerEm) (handle : Handle) :
    other.shape r data companion ⟨face, handle⟩ = o.shape r data companion ⟨face, handle⟩ := by
  have same := h.answers _ (.createHandle faces grid)
  simp only [SameAnswer] at same
  unfold Options.shape
  simp only [same, h.shaping]
  rcases making : o.shaping.createHandle data r.faceIndex face.metrics.unitsPerEm with
    ⟨fault | shaper, said⟩
  · rfl
  · have shapes : o.Shapes tree r data face shaper := ⟨faces, grid, by rw [making]⟩
    simp only [h.attach shapes]

theorem outlineStage (h : o.Mimics tree r other tree') (loads : o.Loads tree r data) :
    other.outlineStage r data (o.loadCompanion tree).1 =
      o.outlineStage r data (o.loadCompanion tree).1 := by
  have same := h.answers _ (.openFace loads)
  simp only [SameAnswer] at same
  unfold Options.outlineStage
  simp only [same, h.outline, h.outline_name]
  rcases opening : o.outline.openFace data (o.loadCompanion tree).1 r.faceIndex with
    ⟨fault | face, said⟩
  · rfl
  · have faces : o.Faces tree r data face := ⟨loads, by rw [opening]⟩
    rcases Nat.eq_zero_or_pos face.metrics.unitsPerEm with gridless | grid
    · simp only [gridless, if_true]
    · simp only [h.shape faces grid]

/-- What is asked decides an opening, all that is said on the way included. -/
theorem openInstance (h : o.Mimics tree r other tree') :
    other.openInstance tree' r = o.openInstance tree r := by
  unfold Options.openInstance
  by_cases sized : isPointSize r.pointSize = true
  · have same := h.answers _ (.primary sized)
    simp only [SameAnswer] at same
    rw [if_pos sized, if_pos sized, same]
    rcases loading : FontData.load tree r.path o.config with ⟨fault | data, said⟩
    · rfl
    · have loads : o.Loads tree r data := ⟨sized, by rw [loading]⟩
      simp only [h.loadCompanion loads, h.outlineStage loads]
  · rw [if_neg sized, if_neg sized]

end Mimics

/-- An opening fails with the fault of the first stage that fails, in the one order of the stages,
and goes through when none does. A companion that cannot be loaded has no part in this, and neither
has anything that is not asked: whatever the files and the backends would answer to a call that is
not due, the opening is the same. -/
theorem openInstance_decided (o : Options) (tree : FileTree) (r : Request) :
    (∀ fault, (o.openInstance tree r).1 = .error fault ↔ ∃ stage, o.Fails tree r stage fault) ∧
    ((∃ i, (o.openInstance tree r).1 = .ok i) ↔ ∀ stage fault, ¬ o.Fails tree r stage fault) ∧
    (∀ stage fault code, o.Fails tree r stage fault → stage.code? = some code →
      fault.code = code) ∧
    ((o.loadCompanion tree).1 = none →
      (o.openInstance tree r).1 = ({ o with companion := none }.openInstance tree r).1) ∧
    ∀ other tree', o.Mimics tree r other tree' →
      other.openInstance tree' r = o.openInstance tree r := by
  refine ⟨fun fault => openInstance_eq_error, openInstance_eq_ok, ?_,
    openInstance_of_companion_none, ?_⟩
  · intro stage fault code fails common
    exact fails.code common
  · intro other tree' mimics
    exact mimics.openInstance

end Options
end SizedFace
