import SizedFace.Proofs.Assembly
import SizedFace.Proofs.GlyphExtents
import SizedFace.Proofs.Independence

namespace SizedFace

/-- Queries whose answers can show the direction. -/
def Query.showsDirection : Query → Bool
  | .summary | .description | .glyphs _ => true
  | _ => false

namespace Instance

variable {i j : Instance} {vertical : Bool}

/-- The width of a glyph along a direction: the advance of the face in points, zero without one. -/
def widthAlong (i : Instance) (vertical : Bool) (glyph : Nat) : Binary32 :=
  if i.hasGlyph glyph then ((i.face.value.advance glyph vertical).map i.unitsToPoints).getD .zero
  else .zero

/-- One instance is another turned to a direction. It is another one in nothing but the direction
itself and, of its glyphs, the width, the right bearing and the correction, which go by the width
along the direction. -/
structure Turned (i : Instance) (vertical : Bool) (j : Instance) : Prop where
  others : ∀ query, query.showsDirection = false → j.answer query = i.answer query
  summary : j.summary = { i.summary with vertical }
  description : ∃ before after, i.describe = before ++ toString i.vertical ++ after ∧
    j.describe = before ++ toString vertical ++ after
  glyph : ∀ glyph, j.glyphSummary glyph =
    { i.glyphSummary glyph with
      width := i.widthAlong vertical glyph
      rightBearing := i.widthAlong vertical glyph - (i.glyphBounds glyph).xMax
      italicCorrection := if i.italicAngle.same .zero then .zero
        else .max .zero ((i.glyphBounds glyph).xMax - i.widthAlong vertical glyph) }

theorem glyphWidth_eq_widthAlong (i : Instance) (glyph : Nat) :
    i.glyphWidth glyph = i.widthAlong i.vertical glyph := by
  unfold glyphWidth widthAlong
  cases i.face.value.advance glyph i.vertical <;> rfl

/-- In the description of an instance, the direction stands between texts that do not tell it. -/
theorem describe_eq (i : Instance) : ∃ before after, ∀ vertical,
    (i.setVertical vertical).describe = before ++ toString vertical ++ after := by
  refine ⟨"FontInstance \x7b filename: " ++ i.path.describe ++
      ", face_index: " ++ toString i.faceIndex ++
      ", point_size: " ++ i.pointSize.text .described ++
      ", units_per_em: " ++ toString i.unitsPerEm ++
      ", ascent: " ++ i.ascent.text .described ++
      ", descent: " ++ i.descent.text .described ++ ", vertical: ",
    ", variant: " ++ i.variant.describe ++ ", shaper: \"" ++ i.shaper.value.name ++ "\" \x7d", ?_⟩
  intro vertical
  have variant : (i.setVertical vertical).variant = i.variant := rfl
  unfold describe
  rw [variant]
  simp only [setVertical, ← String.append_assoc]

theorem turned_setVertical (i : Instance) (vertical : Bool) :
    i.Turned vertical (i.setVertical vertical) where
  others query blind := by
    cases query with
    | summary | description => cases blind
    | glyphs glyphs => cases blind
    | _ => rfl
  summary := rfl
  description := by
    obtain ⟨before, after, described⟩ := i.describe_eq
    exact ⟨before, after, described i.vertical, described vertical⟩
  glyph glyph := by
    rw [glyphSummary_eq_ofExtents, glyphWidth_eq_widthAlong]
    rfl

end Instance

namespace Session

theorem run_append (s : Session) (steps more : List Step) :
    s.run (steps ++ more) =
      (((s.run steps).1.run more).1, (s.run steps).2 ++ ((s.run steps).1.run more).2) := by
  induction steps generalizing s with
  | nil => rfl
  | cons step rest ih => simp only [List.cons_append, run, ih]

theorem length_run (s : Session) (steps : List Step) : (s.run steps).2.length = steps.length := by
  induction steps generalizing s with
  | nil => rfl
  | cons step rest ih => simp only [run, List.length_cons, ih]

/-- The outcome of a query in a run is the answer of what the slot holds by then. -/
theorem outcome_ask {s : Session} {slot : String} {steps : List Step} {i : Instance}
    (held : (s.run steps).1.slot? slot = some i) (query : Query) (rest : List Step) :
    (s.run (steps ++ .ask slot query :: rest)).2[steps.length]? =
      some (.answered (i.answer query)) := by
  rw [run_append, ← s.length_run steps, List.getElem?_append_right (Nat.le_refl _), Nat.sub_self]
  simp only [run, advance, held, List.getElem?_cons_zero]

theorem direction_concat (slot : String) (before : Bool) (steps : List Step) (vertical : Bool) :
    Step.direction slot before (steps ++ [.setVertical slot vertical]) = vertical := by
  simp [Step.direction, Step.direction?]

/-- Of an instance as it was opened, a session asks what it will, and turns it as often as it will.
The answer to every query follows from the instance and the direction set last, the line of text
before the first. Turning it changes the direction and what goes by the advances along it, and
nothing else; and turned back, it answers as it did. -/
theorem outcomes_of_direction {o : Options} {tree : FileTree} {r : Request} {i : Instance}
    (opened : (o.openInstance tree r).1 = .ok i) {s : Session} {slot : String}
    (held : s.slot? slot = some i) {steps : List Step}
    (leaves : ∀ step ∈ steps, step.leaves slot = true) :
    (∀ query rest, (s.run (steps ++ .ask slot query :: rest)).2[steps.length]? =
      some (.answered
        ((i.setVertical (Step.direction slot false steps)).answer query))) ∧
    (∀ vertical, i.Turned vertical (i.setVertical vertical)) ∧
    ∀ more, (∀ step ∈ more, step.leaves slot = true) → ∀ query rest,
      let back := steps ++ more ++ [.setVertical slot (Step.direction slot false steps)]
      (s.run (back ++ .ask slot query :: rest)).2[back.length]? =
        (s.run (steps ++ .ask slot query :: rest)).2[steps.length]? := by
  have level : i.vertical = false := by
    rw [(Options.built_of_openInstance opened).assembled]
    rfl
  have outcome {steps : List Step} (leaves : ∀ step ∈ steps, step.leaves slot = true)
      (query : Query) (rest : List Step) :
      (s.run (steps ++ .ask slot query :: rest)).2[steps.length]? =
        some (.answered ((i.setVertical (Step.direction slot false steps)).answer query)) := by
    rw [← level]
    exact outcome_ask (slot?_run_of_leaves held leaves) query rest
  refine ⟨outcome leaves, i.turned_setVertical, ?_⟩
  intro more leaves' query rest back
  have all : ∀ step ∈ back, step.leaves slot = true := by
    simp only [back, List.forall_mem_append]
    exact ⟨⟨leaves, leaves'⟩, by simp [Step.leaves]⟩
  have same : Step.direction slot false back = Step.direction slot false steps :=
    direction_concat slot false (steps ++ more) _
  rw [outcome all, outcome leaves, same]

end Session

/-- A face of one glyph, with another advance down the column than along the line. -/
def columnar : Script where
  faceCount := 1
  metrics := ⟨1000, .ofNat 800, .ofInt (-200), none, none, .ofInt (-12)⟩
  glyphCount := 1
  chars := []
  names := []
  advances := [(0, .ofNat 600)]
  verticalAdvances := [(0, .ofNat 1000)]
  boxes := [(0, ⟨.ofNat 40, .zero, .ofNat 700, .ofNat 700⟩)]
  tables := []

def openColumnar : Opened :=
  (⟨.default, none, columnar.outlines, Scripted.shaping, none⟩ : Options).openInstance
    (FileTree.initial.install (.ofString "f.ttf") (.file (.ordinary (.blank 4))))
    ⟨.ofString "f.ttf", 0, .ofNat 10, 0⟩

def Instance.firstWidths (i : Instance) : Binary32 × Binary32 :=
  (i.glyphWidth 0, (i.setVertical true).glyphWidth 0)

/-- Turned to the column, the glyph is wider, and its answer comes from there. -/
theorem outcomes_columnar : ∃ (i : Instance) (s : Session),
    openColumnar.1 = .ok i ∧ s.slot? "a" = some i ∧
    (∀ step ∈ [Step.setVertical "a" true], step.leaves "a" = true) ∧
    (s.run [.setVertical "a" true, .ask "a" (.glyphs [0])]).2[1]? =
      some (.answered ((i.setVertical true).answer (.glyphs [0]))) ∧
    i.Turned true (i.setVertical true) ∧
    i.glyphWidth 0 = .ofNat 6 ∧ (i.setVertical true).glyphWidth 0 = .ofNat 10 := by
  obtain ⟨i, opened, widths⟩ : ∃ i, openColumnar.1 = .ok i ∧
      i.firstWidths = (.ofNat 6, .ofNat 10) := exists_ok_of_map (by decide +kernel)
  let s : Session := { Session.start .initial [] with slots := [("a", i)] }
  have held : s.slot? "a" = some i := rfl
  have leaves : ∀ step ∈ [Step.setVertical "a" true], step.leaves "a" = true := by
    simp [Step.leaves]
  obtain ⟨outcomes, turned, -⟩ := Session.outcomes_of_direction opened held leaves
  exact ⟨i, s, opened, held, leaves, outcomes (.glyphs [0]) [], turned true,
    congrArg Prod.fst widths, congrArg Prod.snd widths⟩

end SizedFace
