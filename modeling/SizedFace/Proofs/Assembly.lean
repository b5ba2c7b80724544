import SizedFace.Proofs.Opening

namespace SizedFace

/-- An instance is what a request makes of the data it loads, stage by stage. -/
structure Instance.Built (i : Instance) (o : Options) (tree : FileTree) (r : Request) : Prop where
  sized : isPointSize r.pointSize = true
  loaded : o.data? tree r = some i.data
  companion : i.companion = (o.loadCompanion tree).1
  opened : (o.outline.openFace i.data i.companion r.faceIndex).1 = .ok i.face.value
  grid : i.unitsPerEm ≠ 0
  shaped : (o.shaping.createHandle i.data r.faceIndex i.unitsPerEm).1 = .ok i.shaper.value
  assembled : i = Options.assemble r i.data i.companion i.face i.shaper i.platform

namespace Instance.Built

variable {i : Instance} {o : Options} {tree : FileTree} {r : Request}

theorem faceIndex (h : i.Built o tree r) : i.faceIndex = r.faceIndex := by
  rw [h.assembled]
  rfl

theorem pointSize (h : i.Built o tree r) : i.pointSize = r.pointSize := by
  rw [h.assembled]
  rfl

theorem unitsPerEm (h : i.Built o tree r) : i.unitsPerEm = i.face.value.metrics.unitsPerEm := by
  rw [h.assembled]
  rfl

theorem glyphCount (h : i.Built o tree r) : i.glyphCount = i.face.value.glyphCount := by
  rw [h.assembled]
  rfl

end Instance.Built

namespace Options

variable {o : Options} {r : Request} {data : FontData} {companion : Option FontData} {i : Instance}

theorem assemble_of_attach {face : Possession OutlineFace} {shaper : Possession ShapingHandle}
    (attached : (o.attach r data companion face shaper).1 = .ok i) :
    ∃ platform, i = assemble r data companion face shaper platform := by
  unfold attach at attached
  cases wanted : o.platform with
  | none =>
    rw [wanted] at attached
    exact ⟨none, (Except.ok.inj attached).symm⟩
  | some backend =>
    rw [wanted] at attached
    rcases made : backend.attach data r.faceIndex r.pointSize with ⟨fault | resources, said⟩
    · simp only [made] at attached
      cases attached
    · simp only [made, Opened.after] at attached
      exact ⟨some _, (Except.ok.inj attached).symm⟩

theorem attach_of_shape {face : Possession OutlineFace}
    (shaped : (o.shape r data companion face).1 = .ok i) :
    ∃ shaper, (o.shaping.createHandle data r.faceIndex face.value.metrics.unitsPerEm).1 =
      .ok shaper.value ∧ (o.attach r data companion face shaper).1 = .ok i := by
  unfold shape at shaped
  rcases made : o.shaping.createHandle data r.faceIndex face.value.metrics.unitsPerEm with
    ⟨fault | shaper, said⟩
  · simp only [made] at shaped
    cases shaped
  · simp only [made, Opened.after] at shaped
    exact ⟨_, rfl, shaped⟩

theorem shape_of_outlineStage (opened : (o.outlineStage r data companion).1 = .ok i) :
    ∃ face, (o.outline.openFace data companion r.faceIndex).1 = .ok face.value ∧
      face.value.metrics.unitsPerEm ≠ 0 ∧ (o.shape r data companion face).1 = .ok i := by
  unfold outlineStage at opened
  rcases made : o.outline.openFace data companion r.faceIndex with ⟨fault | face, said⟩
  · simp only [made] at opened
    cases opened
  · by_cases grid : face.metrics.unitsPerEm = 0
    · simp only [made, grid, if_true] at opened
      cases opened
    · simp only [made, grid, if_false, Opened.after] at opened
      exact ⟨_, rfl, grid, opened⟩

theorem outlineStage_of_openInstance {tree : FileTree}
    (opened : (o.openInstance tree r).1 = .ok i) :
    isPointSize r.pointSize = true ∧ ∃ data, o.data? tree r = some data ∧
      (o.outlineStage r data (o.loadCompanion tree).1).1 = .ok i := by
  unfold openInstance at opened
  by_cases sized : isPointSize r.pointSize = true
  · rw [if_pos sized] at opened
    rcases loaded : FontData.load tree r.path o.config with ⟨fault | data, said⟩
    · simp only [loaded] at opened
      cases opened
    · simp only [loaded, Opened.after] at opened
      exact ⟨sized, data, by simp [data?, loaded, Except.toOption], opened⟩
  · rw [if_neg sized] at opened
    cases opened

theorem built_of_openInstance {tree : FileTree} (opened : (o.openInstance tree r).1 = .ok i) :
    i.Built o tree r := by
  obtain ⟨sized, data, loaded, staged⟩ := outlineStage_of_openInstance opened
  obtain ⟨face, made, grid, staged⟩ := shape_of_outlineStage staged
  obtain ⟨shaper, shaped, staged⟩ := attach_of_shape staged
  obtain ⟨platform, rfl⟩ := assemble_of_attach staged
  exact ⟨sized, loaded, rfl, made, grid, shaped, rfl⟩

end Options

end SizedFace
