import SizedFace.Instance.Opening

namespace SizedFace

/-- The stages of an opening that can object, in the order they are tried. -/
inductive Stage where
  | size | data | outline | grid | shaping | platform
  deriving DecidableEq

namespace Stage

def all : List Stage := [.size, .data, .outline, .grid, .shaping, .platform]

/-- How many handles the stages before this one have acquired. -/
def held : Stage → Nat
  | .size | .data | .outline => 0
  | .grid | .shaping => 1
  | .platform => 2

end Stage

def faultOf {ε α : Type} : Except ε α → Option ε
  | .ok _ => none
  | .error fault => some fault

def Instance.handles (i : Instance) : List Handle :=
  i.face.handle :: i.shaper.handle :: (i.platform.map (·.handle)).toList

namespace Request

variable (r : Request) (part : Part) (maker : Maker)

@[simp] theorem part_handle : (r.handle part maker).part = part := rfl

@[simp] theorem maker_handle : (r.handle part maker).maker = maker := rfl

end Request

namespace Options

def outlineFault? (o : Options) (tree : FileTree) (r : Request) (data : FontData) :
    Option OpenFault :=
  (faultOf (o.outline.openFace data (o.loadCompanion tree).1 r.faceIndex).1).map .load

def gridFault? (o : Options) (r : Request) (face : OutlineFace) : Option OpenFault :=
  if face.metrics.unitsPerEm = 0 then
    some (.load (.metrics (.zeroReported o.outline.name r.path)))
  else none

def shapeFault? (o : Options) (r : Request) (data : FontData) (face : OutlineFace) :
    Option OpenFault :=
  (faultOf (o.shaping.createHandle data r.faceIndex face.metrics.unitsPerEm).1).map
    fun fault => .load (.backend fault)

def attachFault? (o : Options) (r : Request) (data : FontData) : Option OpenFault :=
  o.platform.bind fun backend =>
    (faultOf (backend.attach data r.faceIndex r.pointSize).1).map .platform

def data? (o : Options) (tree : FileTree) (r : Request) : Option FontData :=
  (FontData.load tree r.path o.config).1.toOption

def face? (o : Options) (tree : FileTree) (r : Request) : Option OutlineFace :=
  (o.data? tree r).bind fun data =>
    (o.outline.openFace data (o.loadCompanion tree).1 r.faceIndex).1.toOption

/-- What a stage has against a request, where the stages before it leave it something to judge. -/
def objection? (o : Options) (tree : FileTree) (r : Request) : Stage → Option OpenFault
  | .size => if isPointSize r.pointSize then none else some (.load (.pointSize r.pointSize))
  | .data => (faultOf (FontData.load tree r.path o.config).1).map .load
  | .outline => (o.data? tree r).bind (o.outlineFault? tree r)
  | .grid => (o.face? tree r).bind (o.gridFault? r)
  | .shaping => (o.data? tree r).bind fun data => (o.face? tree r).bind (o.shapeFault? r data)
  | .platform => (o.data? tree r).bind (o.attachFault? r)

/-- The first stage that objects to a request. -/
def stopped? (o : Options) (tree : FileTree) (r : Request) : Option Stage :=
  Stage.all.find? fun stage => (o.objection? tree r stage).isSome

def platformHandles (o : Options) (r : Request) : List Handle :=
  (o.platform.map fun backend => r.handle .platform backend.maker).toList

def handles (o : Options) (r : Request) : List Handle :=
  r.handle .face o.outline.maker :: r.handle .shaper o.shaping.maker :: o.platformHandles r

end Options

namespace Opened

/-- The stages left went through. The instance has what was held before them and what they
acquired. -/
structure Completes (opened : Opened) (held acquired : List Handle) (i : Instance) : Prop where
  result : opened.1 = .ok i
  holds : i.handles = held ++ acquired
  acquires : opened.2.acquisitions = acquired
  releases : opened.2.releases = []
  discards : opened.2.discards = []

/-- One of the stages left objected. What was held and what was acquired is given back, the latest
first. -/
structure Withdraws (opened : Opened) (held acquired : List Handle) (fault : OpenFault) :
    Prop where
  result : opened.1 = .error fault
  acquires : opened.2.acquisitions = acquired
  releases : opened.2.releases = (held ++ acquired).reverse
  discards : opened.2.discards = []

theorem Completes.after {opened : Opened} {acquired : List Handle} {i : Instance}
    {journal : Journal} (held new : List Handle) (h : opened.Completes (held ++ new) acquired i)
    (ha : journal.acquisitions = new) (hr : journal.releases = []) (hd : journal.discards = []) :
    (opened.after journal).Completes held (new ++ acquired) i where
  result := h.result
  holds := by rw [h.holds, List.append_assoc]
  acquires := by rw [Opened.after, Journal.acquisitions_append, ha, h.acquires]
  releases := by rw [Opened.after, Journal.releases_append, hr, h.releases, List.append_nil]
  discards := by rw [Opened.after, Journal.discards_append, hd, h.discards, List.append_nil]

theorem Withdraws.after {opened : Opened} {acquired : List Handle} {fault : OpenFault}
    {journal : Journal} (held new : List Handle)
    (h : opened.Withdraws (held ++ new) acquired fault) (ha : journal.acquisitions = new)
    (hr : journal.releases = []) (hd : journal.discards = []) :
    (opened.after journal).Withdraws held (new ++ acquired) fault where
  result := h.result
  acquires := by rw [Opened.after, Journal.acquisitions_append, ha, h.acquires]
  releases := by
    rw [Opened.after, Journal.releases_append, hr, h.releases, List.append_assoc, List.nil_append]
  discards := by rw [Opened.after, Journal.discards_append, hd, h.discards, List.append_nil]

end Opened

namespace Journal

@[simp] theorem notices_nil : notices [] = [] := rfl

@[simp] theorem notices_cons (entry : Entry) (journal : Journal) :
    notices (entry :: journal) =
      (match entry with | .said notice => [notice] | _ => []) ++ notices journal := by
  cases entry <;> rfl

@[simp] theorem acquisitions_nil : acquisitions [] = [] := rfl

@[simp] theorem acquisitions_cons (entry : Entry) (journal : Journal) :
    acquisitions (entry :: journal) =
      (match entry with | .acquired handle => [handle] | _ => []) ++ acquisitions journal := by
  cases entry <;> rfl

@[simp] theorem releases_nil : releases [] = [] := rfl

@[simp] theorem releases_cons (entry : Entry) (journal : Journal) :
    releases (entry :: journal) =
      (match entry with | .released handle => [handle] | _ => []) ++ releases journal := by
  cases entry <;> rfl

@[simp] theorem discards_nil : discards [] = [] := rfl

@[simp] theorem discards_cons (entry : Entry) (journal : Journal) :
    discards (entry :: journal) =
      (match entry with | .discarded handle => [handle] | _ => []) ++ discards journal := by
  cases entry <;> rfl

end Journal

namespace Options

theorem attach_cases (o : Options) (r : Request) (data : FontData) (companion : Option FontData)
    (face : Possession OutlineFace) (shaper : Possession ShapingHandle) :
    (o.attachFault? r data = none ∧ ∃ i, (o.attach r data companion face shaper).Completes
      [face.handle, shaper.handle] (o.platformHandles r) i) ∨
    ∃ fault, o.attachFault? r data = some fault ∧
      (o.attach r data companion face shaper).Withdraws [face.handle, shaper.handle] [] fault := by
  cases hp : o.platform with
  | none =>
    refine .inl ⟨by simp [attachFault?, hp], assemble r data companion face shaper none, ?_⟩
    constructor <;> simp [attach, hp, platformHandles, Instance.handles, assemble]
  | some backend =>
    rcases ha : backend.attach data r.faceIndex r.pointSize with ⟨fault | resources, said⟩
    · refine .inr ⟨.platform fault, by simp [attachFault?, hp, ha, faultOf], ?_⟩
      constructor <;> simp [attach, hp, ha]
    · let platform : Possession PlatformResources :=
        ⟨resources, r.handle .platform backend.maker⟩
      refine .inl ⟨by simp [attachFault?, hp, ha, faultOf],
        assemble r data companion face shaper (some platform), ?_⟩
      constructor <;>
        simp [attach, hp, ha, platformHandles, Instance.handles, assemble, Opened.after, platform]

theorem shape_cases (o : Options) (r : Request) (data : FontData) (companion : Option FontData)
    (face : Possession OutlineFace) :
    (o.shapeFault? r data face.value = none ∧ o.attachFault? r data = none ∧
      ∃ i, (o.shape r data companion face).Completes [face.handle]
        (r.handle .shaper o.shaping.maker :: o.platformHandles r) i) ∨
    (∃ fault, o.shapeFault? r data face.value = some fault ∧
      (o.shape r data companion face).Withdraws [face.handle] [] fault) ∨
    ∃ fault, o.shapeFault? r data face.value = none ∧ o.attachFault? r data = some fault ∧
      (o.shape r data companion face).Withdraws [face.handle]
        [r.handle .shaper o.shaping.maker] fault := by
  rcases hs : o.shaping.createHandle data r.faceIndex face.value.metrics.unitsPerEm with
    ⟨fault | shaper, said⟩
  · refine .inr (.inl ⟨.load (.backend fault), by simp [shapeFault?, hs, faultOf], ?_⟩)
    constructor <;> simp [shape, hs, Opened.failed]
  · have hnone : o.shapeFault? r data face.value = none := by simp [shapeFault?, hs, faultOf]
    simp only [shape, hs]
    let handle := r.handle .shaper o.shaping.maker
    rcases o.attach_cases r data companion face ⟨shaper, handle⟩ with
      ⟨ha, i, hi⟩ | ⟨fault, ha, hf⟩
    · exact .inl ⟨hnone, ha, i,
        hi.after [face.handle] [handle] (by simp [handle]) (by simp) (by simp)⟩
    · exact .inr (.inr ⟨fault, hnone, ha,
        hf.after [face.handle] [handle] (by simp [handle]) (by simp) (by simp)⟩)

/-- An opening goes through when no stage objects. Otherwise it fails with the objection of the
first stage that does, and what was acquired before it is given back. -/
theorem openInstance_cases (o : Options) (tree : FileTree) (r : Request) :
    (o.stopped? tree r = none ∧
      ∃ i, (o.openInstance tree r).Completes [] (o.handles r) i) ∨
    ∃ stage fault, o.stopped? tree r = some stage ∧ o.objection? tree r stage = some fault ∧
      (o.openInstance tree r).Withdraws [] ((o.handles r).take stage.held) fault := by
  cases hsize : isPointSize r.pointSize with
  | false =>
    refine .inr ⟨.size, .load (.pointSize r.pointSize), ?_, by simp [objection?, hsize], ?_⟩
    · simp [stopped?, Stage.all, objection?, hsize]
    · constructor <;> simp [openInstance, hsize, Opened.failed, Stage.held]
  | true =>
  rcases hload : FontData.load tree r.path o.config with ⟨fault | data, said⟩
  · refine .inr ⟨.data, .load fault, ?_, by simp [objection?, hload, faultOf], ?_⟩
    · simp [stopped?, Stage.all, objection?, hsize, hload, faultOf]
    · constructor <;> simp [openInstance, hsize, hload, Opened.failed, Stage.held]
  have hdata : o.data? tree r = some data := by simp [data?, hload, Except.toOption]
  have hloads : faultOf (FontData.load tree r.path o.config).1 = none := by simp [hload, faultOf]
  rcases hopen : o.outline.openFace data (o.loadCompanion tree).1 r.faceIndex with
    ⟨fault | face, more⟩
  · refine .inr ⟨.outline, .load fault, ?_, ?_, ?_⟩
    · simp [stopped?, Stage.all, objection?, outlineFault?, hsize, hload, hdata, hopen, faultOf]
    · simp [objection?, outlineFault?, hdata, hopen, faultOf]
    · constructor <;>
        simp [openInstance, outlineStage, hsize, hload, hopen, Opened.failed, Opened.after,
          Stage.held]
  have hface : o.face? tree r = some face := by simp [face?, hdata, hopen, Except.toOption]
  have hopens : o.outlineFault? tree r data = none := by simp [outlineFault?, hopen, faultOf]
  by_cases hgrid : face.metrics.unitsPerEm = 0
  · refine .inr ⟨.grid, .load (.metrics (.zeroReported o.outline.name r.path)), ?_, ?_, ?_⟩
    · simp [stopped?, Stage.all, objection?, gridFault?, hsize, hloads, hdata, hface, hopens, hgrid]
    · simp [objection?, gridFault?, hface, hgrid]
    · constructor <;>
        simp [openInstance, outlineStage, hsize, hload, hopen, hgrid, Opened.failed, Opened.after,
          Stage.held, handles]
  have hgrids : o.gridFault? r face = none := by simp [gridFault?, hgrid]
  simp only [openInstance, outlineStage, hsize, hload, hopen, hgrid, if_true, if_false]
  let handle := r.handle .face o.outline.maker
  rcases o.shape_cases r data (o.loadCompanion tree).1 ⟨face, handle⟩ with
    ⟨hs, ha, i, hi⟩ | ⟨fault, hs, hf⟩ | ⟨fault, hs, ha, hf⟩
  · refine .inl ⟨?_, i, ?_⟩
    · simp [stopped?, Stage.all, objection?, hsize, hloads, hdata, hface, hopens, hgrids, hs, ha]
    · exact (hi.after [] [handle] (by simp [handle]) (by simp) (by simp)).after [] [] (by simp)
        (by simp) (by simp)
  · refine .inr ⟨.shaping, fault, ?_, by simp [objection?, hdata, hface, hs], ?_⟩
    · simp [stopped?, Stage.all, objection?, hsize, hloads, hdata, hface, hopens, hgrids, hs]
    · exact (hf.after [] [handle] (by simp [handle]) (by simp) (by simp)).after [] [] (by simp)
        (by simp) (by simp)
  · refine .inr ⟨.platform, fault, ?_, by simp [objection?, hdata, ha], ?_⟩
    · simp [stopped?, Stage.all, objection?, hsize, hloads, hdata, hface, hopens, hgrids, hs, ha]
    · exact (hf.after [] [handle] (by simp [handle]) (by simp) (by simp)).after [] [] (by simp)
        (by simp) (by simp)

end Options
end SizedFace
