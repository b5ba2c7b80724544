import SizedFace.Instance.Query
import SizedFace.Proofs.GlyphReach
import SizedFace.Proofs.RoundingError

namespace SizedFace

theorem Binary32.max_zero (x : Binary32) :
    Binary32.max .zero x = if Binary32.zero.lt x then x else .zero := by
  cases x <;> rfl

namespace GlyphSummary

/-- All that is said of a glyph with this name, width and box. -/
def ofExtents (upright : Bool) (name : Option String) (width : Binary32) (bounds : Box) :
    GlyphSummary where
  name := name
  width := width
  bounds := bounds
  height := bounds.yMax
  depth := -bounds.yMin
  leftBearing := bounds.xMin
  rightBearing := width - bounds.xMax
  italicCorrection := if upright then .zero else .max .zero (bounds.xMax - width)

/-- The width and the box are zero, and the rest compares equal to it: the depth is a negative zero,
the others are positive ones. -/
structure MeasuresZero (s : GlyphSummary) : Prop where
  width : s.width = .zero
  bounds : s.bounds = .zero
  height : s.height.same .zero = true
  depth : s.depth.same .zero = true
  leftBearing : s.leftBearing.same .zero = true
  rightBearing : s.rightBearing.same .zero = true
  italicCorrection : s.italicCorrection.same .zero = true

theorem measuresZero_ofExtents (upright : Bool) (name : Option String) :
    (ofExtents upright name .zero .zero).MeasuresZero := by
  have difference : Binary32.zero - .zero = .zero := by decide
  refine ⟨rfl, rfl, rfl, rfl, rfl, ?_, ?_⟩
  · exact congrArg (·.same .zero) difference
  · simp only [ofExtents, Box.zero, difference]
    cases upright <;> rfl

end GlyphSummary

namespace Instance

variable {i : Instance} {glyph : Nat}

theorem glyphName_eq (inside : glyph < i.glyphCount) :
    i.glyphName glyph = i.face.value.glyphName glyph := by
  simp [glyphName, hasGlyph, inside]

theorem glyphWidth_eq (inside : glyph < i.glyphCount) {units : Binary32}
    (stored : i.face.value.advance glyph i.vertical = some units) :
    i.glyphWidth glyph = i.unitsToPoints units := by
  simp [glyphWidth, hasGlyph, inside, stored]

theorem glyphWidth_eq_zero (none : i.face.value.advance glyph i.vertical = none) :
    i.glyphWidth glyph = .zero := by
  simp [glyphWidth, none]

theorem glyphBounds_eq (inside : glyph < i.glyphCount) {box : Box}
    (boxed : i.face.value.bounds glyph = some box) :
    i.glyphBounds glyph = box.scaled (i.pointSize / .ofNat i.unitsPerEm) := by
  simp [glyphBounds, hasGlyph, inside, boxed]

theorem glyphBounds_eq_zero (none : i.face.value.bounds glyph = none) :
    i.glyphBounds glyph = .zero := by
  simp [glyphBounds, none]

theorem italicCorrection_eq_max (i : Instance) (glyph : Nat) :
    i.italicCorrection glyph = if i.italicAngle.same .zero then .zero
      else .max .zero ((i.glyphBounds glyph).xMax - i.glyphWidth glyph) := by
  rw [italicCorrection, Binary32.max_zero, (Binary32.lt_sub_zero _ _).2]

/-- The derived values of a glyph take nothing from the face but its width and its box. -/
theorem glyphSummary_eq_ofExtents (i : Instance) (glyph : Nat) :
    i.glyphSummary glyph = .ofExtents (i.italicAngle.same .zero) (i.glyphName glyph)
      (i.glyphWidth glyph) (i.glyphBounds glyph) := by
  rw [glyphSummary, italicCorrection_eq_max]
  rfl

theorem measuresZero_of_extents (none : i.glyphWidth glyph = .zero)
    (none' : i.glyphBounds glyph = .zero) : (i.glyphSummary glyph).MeasuresZero := by
  rw [glyphSummary_eq_ofExtents, none, none']
  exact GlyphSummary.measuresZero_ofExtents _ _

/-- A name, a width and a box are what the face has for a glyph, scaled to points; what it has not
is no name, or zero. -/
structure Measures (i : Instance) (glyph : Nat) (name : Option String) (width : Binary32)
    (bounds : Box) : Prop where
  name : name = i.face.value.glyphName glyph
  advance : ∀ units, i.face.value.advance glyph i.vertical = some units →
    width = i.unitsToPoints units
  noAdvance : i.face.value.advance glyph i.vertical = none → width = .zero
  box : ∀ box, i.face.value.bounds glyph = some box →
    bounds = box.scaled (i.pointSize / .ofNat i.unitsPerEm)
  noBox : i.face.value.bounds glyph = none → bounds = .zero

/-- All that is said of a glyph follows from its name, its width and its box. A glyph that is
counted has those of the face, and measures zero where the face has nothing; one past the count has
no name and measures zero whatever the face has for it. -/
theorem glyphSummary_of_stored (i : Instance) (glyph : Nat) :
    i.glyphSummary glyph = .ofExtents (i.italicAngle.same .zero) (i.glyphName glyph)
      (i.glyphWidth glyph) (i.glyphBounds glyph) ∧
    (glyph < i.glyphCount →
      i.Measures glyph (i.glyphName glyph) (i.glyphWidth glyph) (i.glyphBounds glyph) ∧
      (i.face.value.advance glyph i.vertical = none → i.face.value.bounds glyph = none →
        (i.glyphSummary glyph).MeasuresZero)) ∧
    (i.glyphCount ≤ glyph →
      (i.glyphSummary glyph).name = none ∧ (i.glyphSummary glyph).MeasuresZero) := by
  refine ⟨i.glyphSummary_eq_ofExtents glyph, ?_, ?_⟩
  · intro inside
    refine ⟨⟨glyphName_eq inside, fun units => glyphWidth_eq inside, glyphWidth_eq_zero,
      fun box => glyphBounds_eq inside, glyphBounds_eq_zero⟩, ?_⟩
    intro none none'
    exact measuresZero_of_extents (glyphWidth_eq_zero none) (glyphBounds_eq_zero none')
  · intro past
    have blank : i.Blank glyph := blank_of_uncounted (decide_eq_false (Nat.not_lt.2 past))
    exact ⟨blank.name, measuresZero_of_extents blank.width blank.bounds⟩

end Instance
end SizedFace
