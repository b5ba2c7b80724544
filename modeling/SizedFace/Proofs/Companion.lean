import SizedFace.Instance.Query
import SizedFace.Proofs.Assembly
import SizedFace.Proofs.FaceOpening

namespace SizedFace

open Sfnt

/-- The table that a companion has for a tag, if it is a single face. -/
def supplied? (companion : Option FontData) (tag : Tag) : Option Bytes :=
  (companionFace (companion.map (·.bytes))).1.bind fun d => d.table? tag

/-- A companion supplies tables only where a directory stands at its front. -/
theorem supplied?_eq_none {companion : Option FontData}
    (other : ∀ data d, companion = some data → FontFile.read data.bytes ≠ .ok (.single d))
    (tag : Tag) : supplied? companion tag = none := by
  unfold supplied? companionFace
  cases companion with
  | none => rfl
  | some data =>
    cases front : Directory.read data.bytes 0 with
    | error fault => simp [front]
    | ok d => exact absurd (FontFile.read_eq_single.2 front) (other data d rfl)

/-- A face that looks tables up elsewhere where it has none. -/
def OutlineFace.extend (face : OutlineFace) (more : Tag → Option Bytes) : OutlineFace :=
  { face with table := fun tag => (face.table tag).or (more tag) }

/-- Opening a face with a companion extends the face that is opened without one. -/
theorem openFace_companion (data : FontData) (companion : Option FontData) (index : Nat) :
    (outlines.openFace data companion index).1 =
      (outlines.openFace data none index).1.map fun face => face.extend (supplied? companion) := by
  simp only [outlines, Face.ofData_eq]
  cases openDirectory data.bytes index with
  | error fault => rfl
  | ok opened =>
    simp only [Except.map, Face.toOutlineFace, OutlineFace.extend, Face.ofDirectory]
    congr 2
    funext tag
    simp only [Face.table, supplied?]
    cases opened.1.table? tag <;> rfl

def Instance.pair (i : Instance) (companion : Option FontData) : Instance :=
  { i with
    companion
    face := ⟨i.face.value.extend (supplied? companion), i.face.handle⟩ }

namespace Options

variable (o : Options) (r : Request) (data : FontData) (companion : Option FontData)

theorem attach_companion (face : Possession OutlineFace) (shaper : Possession ShapingHandle) :
    (o.attach r data companion ⟨face.value.extend (supplied? companion), face.handle⟩ shaper).1 =
      (o.attach r data none face shaper).1.map fun i => i.pair companion := by
  unfold attach
  cases o.platform with
  | none => rfl
  | some backend =>
    rcases made : backend.attach data r.faceIndex r.pointSize with ⟨fault | resources, said⟩
    · simp only [made]
      rfl
    · simp only [made]
      rfl

theorem shape_companion (face : Possession OutlineFace) :
    (o.shape r data companion ⟨face.value.extend (supplied? companion), face.handle⟩).1 =
      (o.shape r data none face).1.map fun i => i.pair companion := by
  have same : (face.value.extend (supplied? companion)).metrics = face.value.metrics := rfl
  unfold shape
  simp only [same]
  rcases made : o.shaping.createHandle data r.faceIndex face.value.metrics.unitsPerEm with
    ⟨fault | shaper, said⟩
  · rfl
  · simp only [Opened.after]
    exact o.attach_companion r data companion face _

theorem outlineStage_companion (outline : o.outline = outlines) :
    (o.outlineStage r data companion).1 =
      (o.outlineStage r data none).1.map fun i => i.pair companion := by
  have extended := openFace_companion data companion r.faceIndex
  unfold outlineStage
  rw [outline]
  rcases bare : outlines.openFace data none r.faceIndex with ⟨fault | face, said⟩
  · rcases paired : outlines.openFace data companion r.faceIndex with ⟨fault' | face', said'⟩
    · rw [bare, paired] at extended
      cases extended
      rfl
    · rw [bare, paired] at extended
      cases extended
  · rcases paired : outlines.openFace data companion r.faceIndex with ⟨fault' | face', said'⟩
    · rw [bare, paired] at extended
      cases extended
    · rw [bare, paired] at extended
      cases extended
      by_cases grid : face.metrics.unitsPerEm = 0
      · simp only [OutlineFace.extend, grid, if_true]
        rfl
      · simp only [OutlineFace.extend, grid, if_false, Opened.after]
        exact o.shape_companion r data companion ⟨face, _⟩

def companionAt? (o : Options) (tree : FileTree) (path : Path) : Option FontData :=
  (FontData.load tree path o.config).1.toOption

/-- The choices with outlines read from font files, and a companion or none. -/
def reading (o : Options) (companion : Option Path) : Options :=
  { o with outline := outlines, companion }

theorem loadCompanion_reading (tree : FileTree) (path : Path) :
    ((o.reading (some path)).loadCompanion tree).1 = o.companionAt? tree path := by
  simp only [loadCompanion, reading, companionAt?]
  rcases FontData.load tree path o.config with ⟨fault | data, said⟩ <;> rfl

theorem openInstance_reading (tree : FileTree) (path : Path) :
    ((o.reading (some path)).openInstance tree r).1 =
      ((o.reading none).openInstance tree r).1.map fun i => i.pair (o.companionAt? tree path) := by
  have staged : ∀ data, ((o.reading (some path)).outlineStage r data (o.companionAt? tree path)).1 =
      ((o.reading none).outlineStage r data none).1.map
        fun i => i.pair (o.companionAt? tree path) :=
    fun data => (o.reading none).outlineStage_companion r data _ rfl
  by_cases sized : isPointSize r.pointSize = true
  · rcases loaded : FontData.load tree r.path o.config with ⟨fault | data, said⟩
    · simp only [openInstance, sized, if_true, reading, loaded]
      rfl
    · have primary : ∀ companion, FontData.load tree r.path (o.reading companion).config =
        (.ok data, said) := fun _ => loaded
      simp only [openInstance, sized, if_true, primary, Opened.after, loadCompanion_reading]
      exact staged data
  · simp only [openInstance, sized]
    rfl

end Options

/-- The questions whose answers neither name a companion nor come from a table it may supply. -/
def Query.isPlain : Query → Bool
  | .summary | .data | .tables _ | .namedTables => false
  | _ => true

/-- The second instance is the first one with a companion at its side: all it answers is the same,
but for the companion and for the tables of which the face of the first has none. -/
structure Instance.Beside (companion : Option FontData) (i j : Instance) : Prop where
  answers : ∀ vertical query, query.isPlain = true →
    (j.setVertical vertical).answer query = (i.setVertical vertical).answer query
  summary : ∀ vertical, (j.setVertical vertical).summary =
    { (i.setVertical vertical).summary with companion }
  data : j.data = i.data
  primary : ∃ place d, BeginsAt i.data.bytes i.faceIndex place ∧
    Directory.read i.data.bytes place = .ok d ∧ ∀ tag, i.table tag = d.table? tag
  kept : ∀ tag bytes, i.table tag = some bytes → j.table tag = some bytes
  unsupplied : (∀ data d, companion = some data → FontFile.read data.bytes ≠ .ok (.single d)) →
    ∀ tag, j.table tag = i.table tag

theorem Instance.beside_pair {o : Options} {tree : FileTree} {r : Request} {i : Instance}
    (built : i.Built (o.reading none) tree r) (companion : Option FontData) :
    i.Beside companion (i.pair companion) where
  answers vertical query plain := by cases query <;> first | rfl | cases plain
  summary vertical := rfl
  data := rfl
  primary := by
    obtain ⟨d, head, opened, face⟩ := Face.eq_ofDirectory_of_openFace built.opened
    obtain ⟨place, begins, file, stands, -⟩ := stands_of_openDirectory opened
    refine ⟨place, d, built.faceIndex ▸ begins, Directory.read_eq_ok.2 ⟨file, stands⟩,
      fun tag => ?_⟩
    have none : i.companion = none := built.companion
    simp only [Instance.table, face, none, Face.toOutlineFace, Face.table, Face.ofDirectory]
    cases d.table? tag <;> rfl
  kept tag bytes has := by
    change (i.table tag).or _ = _
    rw [has]
    rfl
  unsupplied other tag := by
    change (i.table tag).or (supplied? companion tag) = _
    rw [supplied?_eq_none other, Option.or_none]

/-- Opening with a companion ends as opening without one, whatever is at the path of the companion,
and the instance answers as it does without one. -/
theorem openInstance_companion (o : Options) (tree : FileTree) (r : Request) (path : Path) :
    EndAlike (Instance.Beside (o.companionAt? tree path))
      ((o.reading none).openInstance tree r).1 ((o.reading (some path)).openInstance tree r).1 := by
  rw [o.openInstance_reading r tree path]
  cases opened : ((o.reading none).openInstance tree r).1 with
  | error fault => rfl
  | ok i => exact Instance.beside_pair (Options.built_of_openInstance opened) _

end SizedFace
