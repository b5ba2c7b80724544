import SizedFace.Proofs.GlyphExtents
import SizedFace.Scripted

namespace SizedFace

open Binary32

/-- A way from font units to points that keeps the order of all that stays finite. -/
def KeepsOrder (way : Binary32 → Binary32) : Prop :=
  ∀ x y, (way x).isFinite = true → (way y).isFinite = true → x.toRat ≤ y.toRat →
    (way x).toRat ≤ (way y).toRat

/-- The room between an edge and an advance that the first roundings of the two take: that of the
factor of all edges, and that of the product of the advance with the size. -/
def room (size : Binary32) (grid : Nat) (edge advance : ℚ) : ℚ :=
  |edge| * slack (size.toRat / grid) + slack (advance * size.toRat) / grid

/-- A size and a grid that instances can have. -/
structure Sized (size : Binary32) (grid : Nat) : Prop where
  finite : size.isFinite = true
  pos : 0 < size.toRat
  some : 0 < grid
  word : grid < 0x10000

namespace Sized

variable {size : Binary32} {grid : Nat}

theorem grid_pos (sized : Sized size grid) : (0 : ℚ) < grid := by exact_mod_cast sized.some

theorem toRat_grid (sized : Sized size grid) :
    (ofNat grid).toRat = grid ∧ (ofNat grid).isFinite = true :=
  toRat_ofNat (Nat.lt_trans sized.word (by decide))

theorem rounds_div_grid (sized : Sized size grid) {x : Binary32} (finite : x.isFinite = true) :
    Rounds (x.toRat / grid) (x / ofNat grid) := by
  obtain ⟨value, whole⟩ := sized.toRat_grid
  have some : (ofNat grid).toRat ≠ 0 := by
    rw [value]
    exact sized.grid_pos.ne'
  have quotient := rounds_div finite whole some
  rwa [value] at quotient

theorem rounds_edge (sized : Sized size grid) {edge : Binary32}
    (finite : (edge * (size / ofNat grid)).isFinite = true) :
    Rounds (edge.toRat * (size / ofNat grid).toRat) (edge * (size / ofNat grid)) ∧
      |(size / ofNat grid).toRat - size.toRat / grid| ≤ slack (size.toRat / grid) := by
  obtain ⟨own, factor⟩ := isFinite_of_mul finite
  exact ⟨rounds_mul own factor, (sized.rounds_div_grid sized.finite).near factor⟩

theorem rounds_width (sized : Sized size grid) {advance : Binary32}
    (finite : (scaleUnits advance size grid).isFinite = true) :
    Rounds ((advance * size).toRat / grid) (scaleUnits advance size grid) ∧
      Rounds (advance.toRat * size.toRat) (advance * size) ∧
      (advance * size).isFinite = true := by
  have product := isFinite_of_div finite
  obtain ⟨own, -⟩ := isFinite_of_mul product
  exact ⟨sized.rounds_div_grid product, rounds_mul own sized.finite, product⟩

theorem factor_nonneg (sized : Sized size grid) (finite : (size / ofNat grid).isFinite = true) :
    0 ≤ (size / ofNat grid).toRat := by
  have zero : Rounds 0 zero := ⟨false, 0, 1, Nat.one_pos, rfl, by simp [ratio]⟩
  have quotient := sized.rounds_div_grid sized.finite
  have above : 0 ≤ size.toRat / grid := (div_pos sized.pos sized.grid_pos).le
  simpa [toRat, Binary32.zero, signedUnits] using zero.mono quotient above rfl finite

theorem keepsOrder_edge (sized : Sized size grid) :
    KeepsOrder fun edge => edge * (size / ofNat grid) := by
  intro x y finite finite' le
  obtain ⟨rounds, -⟩ := sized.rounds_edge finite
  obtain ⟨rounds', -⟩ := sized.rounds_edge finite'
  have factor := sized.factor_nonneg (isFinite_of_mul finite).2
  exact rounds.mono rounds' (mul_le_mul_of_nonneg_right le factor) finite finite'

theorem keepsOrder_width (sized : Sized size grid) :
    KeepsOrder fun advance => scaleUnits advance size grid := by
  intro x y finite finite' le
  obtain ⟨rounds, product, own⟩ := sized.rounds_width finite
  obtain ⟨rounds', product', own'⟩ := sized.rounds_width finite'
  have products : (x * size).toRat ≤ (y * size).toRat :=
    product.mono product' (mul_le_mul_of_nonneg_right le sized.pos.le) own own'
  exact rounds.mono rounds' (div_le_div_of_nonneg_right products sized.grid_pos.le) finite finite'

section Apart

variable {edge advance : Binary32} (sized : Sized size grid)
  (finite : (edge * (size / ofNat grid)).isFinite = true)
  (finite' : (scaleUnits advance size grid).isFinite = true)

include sized finite finite'

/-- Before their last roundings, an edge and an advance are no further apart than in font units and
by their room. -/
theorem le_add_room :
    edge.toRat * (size / ofNat grid).toRat ≤ (advance * size).toRat / grid +
      ((edge.toRat - advance.toRat) * (size.toRat / grid) +
        room size grid edge.toRat advance.toRat) := by
  obtain ⟨-, factor⟩ := sized.rounds_edge finite
  obtain ⟨-, rounds, own⟩ := sized.rounds_width finite'
  have product := rounds.near own
  have moved : edge.toRat * ((size / ofNat grid).toRat - size.toRat / grid) ≤
      |edge.toRat| * slack (size.toRat / grid) := by
    refine (le_abs_self _).trans ?_
    rw [abs_mul]
    exact mul_le_mul_of_nonneg_left factor (abs_nonneg _)
  have kept : advance.toRat * size.toRat / grid - (advance * size).toRat / grid ≤
      slack (advance.toRat * size.toRat) / grid := by
    rw [← sub_div]
    refine div_le_div_of_nonneg_right ?_ sized.grid_pos.le
    linarith [(abs_le.1 product).1]
  rw [room]
  rw [mul_div_assoc] at kept
  linarith

/-- An edge that falls short of the advance by their room stays inside the width. -/
theorem edge_le_width (clear : edge.toRat * (size.toRat / grid) +
      room size grid edge.toRat advance.toRat ≤ advance.toRat * (size.toRat / grid)) :
    (edge * (size / ofNat grid)).toRat ≤ (scaleUnits advance size grid).toRat := by
  have apart := sized.le_add_room finite finite'
  obtain ⟨rounds, -⟩ := sized.rounds_edge finite
  obtain ⟨rounds', -, -⟩ := sized.rounds_width finite'
  exact rounds.mono rounds' (by linarith) finite finite'

/-- An edge that is not past the advance leaves the width by no more than four roundings move
numbers. -/
theorem edge_le_width_add (le : edge.toRat ≤ advance.toRat) :
    (edge * (size / ofNat grid)).toRat ≤ (scaleUnits advance size grid).toRat +
      (room size grid edge.toRat advance.toRat +
        slack (edge.toRat * (size / ofNat grid).toRat) +
        slack ((advance * size).toRat / grid)) := by
  have apart := sized.le_add_room finite finite'
  obtain ⟨rounds, -⟩ := sized.rounds_edge finite
  obtain ⟨rounds', -, -⟩ := sized.rounds_width finite'
  have near := abs_le.1 (rounds.near finite)
  have near' := abs_le.1 (rounds'.near finite')
  have ordered : (edge.toRat - advance.toRat) * (size.toRat / grid) ≤ 0 :=
    mul_nonpos_of_nonpos_of_nonneg (by linarith) (div_pos sized.pos sized.grid_pos).le
  linarith

end Apart

/-- At all sizes but the smallest the product of an advance with the size takes little room. -/
theorem slack_product_le (sized : Sized size grid) (advance : ℚ)
    (normal : 1 / twoPow 126 ≤ size.toRat / grid) :
    slack (advance * size.toRat) / grid ≤ (|advance| + 1) * (size.toRat / grid / twoPow 24) := by
  have grid_pos := sized.grid_pos
  have one_le : (1 : ℚ) ≤ grid := by exact_mod_cast sized.some
  have least : (1 / twoPow 150 : ℚ) ≤ size.toRat / grid / twoPow 24 := by
    rw [cast_twoPow_add 126 24, ← div_div]
    exact div_le_div_of_nonneg_right normal (cast_twoPow_pos 24).le
  have spread : size.toRat / twoPow 24 = size.toRat / grid / twoPow 24 * grid := by
    rw [div_right_comm, div_mul_cancel₀ _ grid_pos.ne']
  rw [div_le_iff₀ grid_pos, slack, mul_assoc, ← spread]
  have part : 0 ≤ size.toRat / twoPow 24 := (div_pos sized.pos (cast_twoPow_pos 24)).le
  refine max_le ?_ ?_
  · rw [abs_mul, abs_of_pos sized.pos, mul_div_assoc]
    linarith
  · have wide : size.toRat / grid / twoPow 24 ≤ size.toRat / twoPow 24 :=
      div_le_div_of_nonneg_right (div_le_self sized.pos.le one_le) (cast_twoPow_pos 24).le
    linarith [mul_nonneg (abs_nonneg advance) part]

/-- Different whole numbers of font units leave the room that rounding takes, at all sizes but the
smallest. -/
theorem add_room_le_of_whole (sized : Sized size grid) {edge advance : Int} (less : edge < advance)
    (short : advance.natAbs < twoPow 23) (normal : 1 / twoPow 126 ≤ size.toRat / grid) :
    edge * (size.toRat / grid) + room size grid edge advance ≤ advance * (size.toRat / grid) := by
  have scale_pos : 0 < size.toRat / grid := div_pos sized.pos sized.grid_pos
  have product := sized.slack_product_le advance normal
  have factor : slack (size.toRat / grid) = size.toRat / grid / twoPow 24 := by
    rw [slack, abs_of_pos scale_pos, max_eq_left]
    rw [cast_twoPow_add 126 24, ← div_div]
    exact div_le_div_of_nonneg_right normal (cast_twoPow_pos 24).le
  have gap : |edge| + (|advance| + 1) ≤ (advance - edge) * 0x1000000 := by
    have bound : twoPow 23 = 0x800000 := by decide
    rw [Int.abs_eq_natAbs, Int.abs_eq_natAbs]
    omega
  have gap : |(edge : ℚ)| + (|(advance : ℚ)| + 1) ≤ (advance - edge) * twoPow 24 := by
    exact_mod_cast gap
  have scaled := mul_le_mul_of_nonneg_right gap (div_pos scale_pos (cast_twoPow_pos 24)).le
  rw [mul_assoc, mul_div_cancel₀ _ (cast_twoPow_pos 24).ne'] at scaled
  rw [room, factor]
  linarith

end Sized

namespace Instance

/-- The right side of a glyph with an advance and a box that ends at an edge, in font units. -/
structure RightSide (i : Instance) (glyph : Nat) (advance edge : Binary32) : Prop where
  /-- The right bearing is negative exactly where the box leaves the width, however little. -/
  bearing : (i.rightBearing glyph).lt .zero = true ↔
    (i.glyphWidth glyph).toRat < (i.glyphBounds glyph).xMax.toRat
  correction : i.italicCorrection glyph = .zero ↔
    i.italicAngle.same .zero = true ∨ (i.rightBearing glyph).lt .zero = false
  clear : edge.toRat * (i.pointSize.toRat / i.unitsPerEm) +
      room i.pointSize i.unitsPerEm edge.toRat advance.toRat ≤
        advance.toRat * (i.pointSize.toRat / i.unitsPerEm) → (i.rightBearing glyph).lt .zero = false
  whole : ∀ a b : Int, advance.IsInt a → edge.IsInt b → b < a → a.natAbs < twoPow 23 →
    1 / twoPow 126 ≤ i.pointSize.toRat / i.unitsPerEm → (i.rightBearing glyph).lt .zero = false
  bounded : edge.toRat ≤ advance.toRat →
    (i.glyphBounds glyph).xMax.toRat ≤ (i.glyphWidth glyph).toRat +
      (room i.pointSize i.unitsPerEm edge.toRat advance.toRat +
        slack (edge.toRat * (i.pointSize / .ofNat i.unitsPerEm).toRat) +
        slack ((advance * i.pointSize).toRat / i.unitsPerEm))

theorem Built.sized_points {i : Instance} {o : Options} {tree : FileTree} {r : Request}
    (built : i.Built o tree r) (word : i.unitsPerEm < 0x10000) :
    Sized i.pointSize i.unitsPerEm := by
  have accepted := built.sized
  rw [isPointSize, Bool.and_eq_true] at accepted
  obtain ⟨finite, above⟩ := accepted
  rw [lt_iff rfl finite] at above
  rw [built.pointSize]
  refine ⟨finite, ?_, Nat.pos_of_ne_zero built.grid, word⟩
  simpa [toRat, Binary32.zero, signedUnits] using above

theorem rightBearing_lt_zero (i : Instance) (glyph : Nat) :
    (i.rightBearing glyph).lt .zero = (i.glyphWidth glyph).lt (i.glyphBounds glyph).xMax :=
  (lt_sub_zero _ _).1

/-- The correction of a slanted face is zero exactly where the right bearing is not negative. -/
theorem italicCorrection_eq_zero_iff (i : Instance) (glyph : Nat) :
    i.italicCorrection glyph = .zero ↔
      i.italicAngle.same .zero = true ∨ (i.rightBearing glyph).lt .zero = false := by
  rw [italicCorrection, rightBearing_lt_zero]
  cases upright : i.italicAngle.same .zero with
  | true => simp
  | false =>
    cases past : (i.glyphWidth glyph).lt (i.glyphBounds glyph).xMax with
    | false => simp
    | true =>
      have apart : (i.glyphBounds glyph).xMax - i.glyphWidth glyph ≠ .zero := by
        intro none
        have positive := (lt_sub_zero _ _).2.trans past
        rw [none] at positive
        cases positive
      simp [apart]

theorem rightSide {i : Instance} {glyph : Nat} {advance : Binary32} {box : Box}
    (sized : Sized i.pointSize i.unitsPerEm) (inside : glyph < i.glyphCount)
    (stored : i.face.value.advance glyph i.vertical = some advance)
    (boxed : i.face.value.bounds glyph = some box) (finite : (i.glyphWidth glyph).isFinite = true)
    (finite' : (i.glyphBounds glyph).xMax.isFinite = true) :
    i.RightSide glyph advance box.xMax := by
  have bearing : (i.rightBearing glyph).lt .zero = true ↔
      (i.glyphWidth glyph).toRat < (i.glyphBounds glyph).xMax.toRat := by
    rw [rightBearing_lt_zero, lt_iff finite finite']
  have inner : (i.glyphBounds glyph).xMax.toRat ≤ (i.glyphWidth glyph).toRat →
      (i.rightBearing glyph).lt .zero = false := by
    intro le
    rw [← Bool.not_eq_true, bearing]
    exact not_lt.2 le
  have correction := i.italicCorrection_eq_zero_iff glyph
  have width : i.glyphWidth glyph = scaleUnits advance i.pointSize i.unitsPerEm :=
    glyphWidth_eq inside stored
  have edge : (i.glyphBounds glyph).xMax = box.xMax * (i.pointSize / .ofNat i.unitsPerEm) :=
    congrArg Box.xMax (glyphBounds_eq inside boxed)
  rw [width] at finite inner
  rw [edge] at finite' inner
  refine ⟨bearing, correction, ?_, ?_, ?_⟩
  · intro clear
    exact inner (sized.edge_le_width finite' finite clear)
  · intro a b whole whole' less short normal
    refine inner (sized.edge_le_width finite' finite ?_)
    rw [(toRat_of_isInt whole).1, (toRat_of_isInt whole').1]
    exact sized.add_room_le_of_whole less short normal
  · intro le
    rw [width, edge]
    exact sized.edge_le_width_add finite' finite le

end Instance

/-- Each of the two ways from font units to points keeps the order of font units. A right bearing
is negative exactly where the box leaves the width in points, and a correction is zero exactly where
it is not, or where the face is upright. Neither happens to a box that ends before the advance by
the room that rounding takes, such as one with a smaller whole number of font units; and a box that
ends no later than the advance leaves the width by the slack of four roundings at most. -/
theorem rightSide_of_openInstance {o : Options} {tree : FileTree} {r : Request} {i : Instance}
    (opened : (o.openInstance tree r).1 = .ok i) (word : i.unitsPerEm < 0x10000) :
    KeepsOrder i.unitsToPoints ∧
      KeepsOrder (fun edge => edge * (i.pointSize / .ofNat i.unitsPerEm)) ∧
      ∀ vertical glyph advance box, glyph < i.glyphCount →
        i.face.value.advance glyph vertical = some advance →
        i.face.value.bounds glyph = some box →
        ((i.setVertical vertical).glyphWidth glyph).isFinite = true →
        ((i.setVertical vertical).glyphBounds glyph).xMax.isFinite = true →
        (i.setVertical vertical).RightSide glyph advance box.xMax := by
  have sized := (Options.built_of_openInstance opened).sized_points word
  refine ⟨sized.keepsOrder_width, sized.keepsOrder_edge, ?_⟩
  intro vertical glyph advance box inside stored boxed finite finite'
  exact Instance.rightSide sized inside stored boxed finite finite'

/-- A slanted face of one glyph, whose box ends where its advance does. -/
def touching : Script where
  faceCount := 1
  metrics := ⟨1000, .ofNat 800, .ofInt (-200), none, none, .ofInt (-12)⟩
  glyphCount := 1
  chars := []
  names := []
  advances := [(0, .ofNat 600)]
  verticalAdvances := []
  boxes := [(0, ⟨.ofNat 40, .zero, .ofNat 600, .ofNat 700⟩)]
  tables := []

def openTouching : Opened :=
  (⟨.default, none, touching.outlines, Scripted.shaping, none⟩ : Options).openInstance
    (FileTree.initial.install (.ofString "f.ttf") (.file (.ordinary (.blank 4))))
    ⟨.ofString "f.ttf", 0, .ofNat 12, 0⟩

/-- What an instance and its face say of the right side of their first glyph. -/
def Instance.firstRight (i : Instance) : (Nat × Nat) × (Option Binary32 × Option Box) × List Bool :=
  ((i.unitsPerEm, i.glyphCount), (i.face.value.advance 0 false, i.face.value.bounds 0),
    [((i.setVertical false).glyphWidth 0).isFinite,
      ((i.setVertical false).glyphBounds 0).xMax.isFinite,
      ((i.setVertical false).rightBearing 0).lt .zero, i.italicAngle.same .zero])

/-- Where a box ends at its advance, rounding alone makes an overhang. -/
theorem rightSide_touching : ∃ i advance box, openTouching.1 = .ok i ∧ i.unitsPerEm < 0x10000 ∧
    i.face.value.advance 0 false = some advance ∧ i.face.value.bounds 0 = some box ∧
    box.xMax = advance ∧ (i.setVertical false).RightSide 0 advance box.xMax ∧
    ((i.setVertical false).rightBearing 0).lt .zero = true ∧
    (i.setVertical false).italicCorrection 0 ≠ .zero := by
  obtain ⟨i, opened, shown⟩ : ∃ i, openTouching.1 = .ok i ∧ i.firstRight =
      ((1000, 1), (some (.ofNat 600), some ⟨.ofNat 40, .zero, .ofNat 600, .ofNat 700⟩),
        [true, true, true, false]) := exists_ok_of_map (by decide +kernel)
  simp only [Instance.firstRight, Prod.mk.injEq, List.cons.injEq, and_true] at shown
  obtain ⟨⟨grid, count⟩, ⟨stored, boxed⟩, finite, finite', negative, slanted⟩ := shown
  obtain ⟨-, -, sides⟩ := rightSide_of_openInstance opened (by omega)
  have side := sides false 0 _ _ (by omega) stored boxed finite finite'
  have overhangs : (i.setVertical false).italicCorrection 0 ≠ .zero := by
    rw [Ne, side.correction, negative]
    simp [Instance.setVertical, slanted]
  exact ⟨i, _, _, opened, by omega, stored, boxed, rfl, side, negative, overhangs⟩

end SizedFace
