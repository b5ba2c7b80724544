import SizedFace.Instance.Opening
import SizedFace.Instance.Query

namespace SizedFace

def Handle.renumber (opening : Nat) (handle : Handle) : Handle := { handle with opening }

def Possession.renumber {α : Type} (opening : Nat) (p : Possession α) : Possession α :=
  ⟨p.value, p.handle.renumber opening⟩

/-- The same instance, had it been opened under another number. -/
def Instance.renumber (opening : Nat) (i : Instance) : Instance :=
  { i with
    face := i.face.renumber opening
    shaper := i.shaper.renumber opening
    platform := i.platform.map (·.renumber opening) }

def Entry.renumber (opening : Nat) : Entry → Entry
  | .said notice => .said notice
  | .acquired handle => .acquired (handle.renumber opening)
  | .released handle => .released (handle.renumber opening)
  | .discarded handle => .discarded (handle.renumber opening)

def Journal.renumber (opening : Nat) (journal : Journal) : Journal :=
  journal.map (Entry.renumber opening)

def Opened.renumber (opening : Nat) (opened : Opened) : Opened :=
  (opened.1.map (·.renumber opening), opened.2.renumber opening)

namespace Journal

variable (opening : Nat)

theorem renumber_append (a b : Journal) :
    renumber opening (a ++ b) = a.renumber opening ++ b.renumber opening :=
  List.map_append

theorem renumber_told (notices : List Notice) : (told notices).renumber opening = told notices := by
  simp [renumber, told, Entry.renumber]

/-- Nothing that is said tells the number. -/
theorem notices_renumber (journal : Journal) :
    (journal.renumber opening).notices = journal.notices := by
  induction journal with
  | nil => rfl
  | cons entry rest ih =>
    change notices (entry.renumber opening :: renumber opening rest) = notices (entry :: rest)
    cases entry <;> simp_all [notices, Entry.renumber]

end Journal

theorem Opened.renumber_after (opening : Nat) (journal : Journal) (opened : Opened) :
    (opened.after journal).renumber opening =
      (opened.renumber opening).after (journal.renumber opening) := by
  simp [renumber, after, Journal.renumber_append]

namespace Instance

variable (opening : Nat) (i : Instance)

theorem setVertical_renumber (vertical : Bool) :
    (i.renumber opening).setVertical vertical = (i.setVertical vertical).renumber opening := rfl

theorem variant_renumber : (i.renumber opening).variant = i.variant := by
  unfold variant renumber
  cases i.platform <;> rfl

theorem answer_renumber (query : Query) : (i.renumber opening).answer query = i.answer query := by
  have variant := i.variant_renumber opening
  cases query with
  | summary =>
    simp only [answer, summary, variant, Answer.summary.injEq, Summary.mk.injEq]
    simp [renumber, Possession.renumber]
  | description =>
    have described : (i.renumber opening).describe = i.describe := by
      unfold describe
      rw [variant]
      rfl
    simp only [answer, described]
  | platform =>
    simp only [answer, renumber, Option.map_map]
    rfl
  | _ => rfl

theorem teardown_renumber : (i.renumber opening).teardown = i.teardown.renumber opening := by
  have told := Journal.renumber_told opening
  unfold teardown
  rw [Journal.renumber_append]
  simp only [renumber, Journal.renumber, List.map_cons] at told ⊢
  cases i.platform <;> simp [Possession.renumber, Entry.renumber, told]

end Instance

namespace Options

variable (o : Options) (tree : FileTree) (r : Request) (data : FontData)
  (companion : Option FontData) (opening : Nat)

theorem attach_renumber (face : Possession OutlineFace) (shaper : Possession ShapingHandle) :
    o.attach { r with opening } data companion (face.renumber opening) (shaper.renumber opening) =
      (o.attach r data companion face shaper).renumber opening := by
  have told := Journal.renumber_told opening
  unfold attach
  cases o.platform with
  | none => rfl
  | some backend =>
    rcases attaching : backend.attach data r.faceIndex r.pointSize with ⟨fault | resources, said⟩
    · simp only [attaching, Opened.renumber, Journal.renumber_append, told]
      rfl
    · simp only [attaching, Opened.renumber_after, Journal.renumber_append, told]
      rfl

theorem shape_renumber (face : Possession OutlineFace) :
    o.shape { r with opening } data companion (face.renumber opening) =
      (o.shape r data companion face).renumber opening := by
  have told := Journal.renumber_told opening
  have value : (face.renumber opening).value = face.value := rfl
  unfold shape
  simp only [value]
  rcases making : o.shaping.createHandle data r.faceIndex face.value.metrics.unitsPerEm with
    ⟨fault | shaper, said⟩
  · simp only [Opened.failed, Opened.renumber, Journal.renumber_append, told]
    rfl
  · have attached := o.attach_renumber r data companion opening face
      ⟨shaper, r.handle .shaper o.shaping.maker⟩
    simp only [Opened.renumber_after, Journal.renumber_append, told, ← attached]
    congr 1
    simp only [Journal.renumber, List.map_cons]
    congr 2
    exact (told _).symm

theorem outlineStage_renumber :
    o.outlineStage { r with opening } data companion =
      (o.outlineStage r data companion).renumber opening := by
  have told := Journal.renumber_told opening
  unfold outlineStage
  simp only
  rcases o.outline.openFace data companion r.faceIndex with ⟨fault | face, said⟩
  · simp only [Opened.failed, Opened.renumber, told]
    rfl
  · by_cases grid : face.metrics.unitsPerEm = 0
    · simp only [grid, if_true, Opened.failed, Opened.renumber, Journal.renumber_append, told]
      rfl
    · have shaped :=
        o.shape_renumber r data companion opening ⟨face, r.handle .face o.outline.maker⟩
      simp only [grid, if_false, Opened.renumber_after, Journal.renumber_append, told, ← shaped]
      rfl

/-- Under another number an opening comes to the same, but for the number in the handles. -/
theorem openInstance_renumber :
    o.openInstance tree { r with opening } = (o.openInstance tree r).renumber opening := by
  have told := Journal.renumber_told opening
  unfold openInstance
  by_cases sized : isPointSize r.pointSize = true
  · simp only [sized, if_true]
    rcases FontData.load tree r.path o.config with ⟨fault | data, said⟩
    · simp only [Opened.failed, Opened.renumber, told]
      rfl
    · simp only [Opened.renumber_after, told, outlineStage_renumber]
  · simp only [sized]
    rfl

end Options

end SizedFace
