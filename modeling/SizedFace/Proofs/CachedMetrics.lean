import SizedFace.Binary32.Order
import SizedFace.Proofs.FaceOpening
import SizedFace.Proofs.GlyphExtents
import SizedFace.Proofs.Precedence
import SizedFace.Scripted

namespace SizedFace

namespace Binary32

/-- The quotient of two numbers, unless it is by zero. -/
def quotient? (a b : Binary32) : Option Binary32 := if b.same .zero then none else some (a / b)

/-- A whole number is never so large, or rounded so, that it comes out as zero. -/
theorem zero_lt_ofNat {n : Nat} (pos : 0 < n) : zero.lt (ofNat n) = true := by
  have above : decide ((n : Int) < 0) = false := decide_eq_false (by omega)
  rw [ofNat, ofInt, ofRatio, above, Int.natAbs_natCast]
  exact (sign_ofUnits false (Nat.mul_pos pos (twoPow_pos 149))).2

theorem quotient?_of_pos {a b : Binary32} (pos : zero.lt b = true) :
    a.quotient? b = some (a / b) := by
  have number : b ≠ .nan := by
    rintro rfl
    cases pos
  have number' : zero ≠ .nan := nofun
  have apart : b.same .zero = false := by
    rw [same_eq_not_lt number number', pos, Bool.not_true, Bool.and_false]
  rw [quotient?, apart]
  rfl

end Binary32

namespace Instance

/-- The conversion from font units, unless it divides by zero. The others that end on a question
mark are meant in the same way. -/
def unitsToPoints? (i : Instance) (units : Binary32) : Option Binary32 :=
  (units * i.pointSize).quotient? (.ofNat i.unitsPerEm)

def pointsToUnits? (i : Instance) (points : Binary32) : Option Binary32 :=
  (points * .ofNat i.unitsPerEm).quotient? i.pointSize

def glyphWidth? (i : Instance) (glyph : Nat) : Option Binary32 :=
  if i.hasGlyph glyph then
    match i.face.value.advance glyph i.vertical with
    | some units => i.unitsToPoints? units
    | none => some .zero
  else some .zero

/-- The factor of a box is reckoned before the face is asked for the box. -/
def glyphBounds? (i : Instance) (glyph : Nat) : Option Box :=
  if i.hasGlyph glyph then
    (i.pointSize.quotient? (.ofNat i.unitsPerEm)).map fun factor =>
      match i.face.value.bounds glyph with
      | some box => box.scaled factor
      | none => .zero
  else some .zero

def glyphSummary? (i : Instance) (glyph : Nat) : Option GlyphSummary :=
  (i.glyphWidth? glyph).bind fun width =>
    (i.glyphBounds? glyph).map fun bounds =>
      .ofExtents (i.italicAngle.same .zero) (i.glyphName glyph) width bounds

/-- The answer to a query, unless something is divided by zero on the way. Conversions and measures
divide; all else is read off the instance and its face. -/
def answer? (i : Instance) : Query → Option Answer
  | .points units => (units.mapM i.unitsToPoints?).map .numbers
  | .units points => (points.mapM i.pointsToUnits?).map .numbers
  | .glyphs glyphs => (glyphs.mapM i.glyphSummary?).map .glyphs
  | query => some (i.answer query)

structure Divides (i : Instance) : Prop where
  finite : i.pointSize.isFinite = true
  size : Binary32.zero.lt i.pointSize = true
  grid : 0 < i.unitsPerEm

namespace Divides

variable {i : Instance}

theorem setVertical (h : i.Divides) (vertical : Bool) : (i.setVertical vertical).Divides :=
  ⟨h.finite, h.size, h.grid⟩

theorem quotient?_grid (h : i.Divides) (a : Binary32) :
    a.quotient? (.ofNat i.unitsPerEm) = some (a / .ofNat i.unitsPerEm) :=
  Binary32.quotient?_of_pos (Binary32.zero_lt_ofNat h.grid)

theorem quotient?_size (h : i.Divides) (a : Binary32) :
    a.quotient? i.pointSize = some (a / i.pointSize) := Binary32.quotient?_of_pos h.size

theorem unitsToPoints? (h : i.Divides) (units : Binary32) :
    i.unitsToPoints? units = some (i.unitsToPoints units) := h.quotient?_grid _

theorem pointsToUnits? (h : i.Divides) (points : Binary32) :
    i.pointsToUnits? points = some (i.pointsToUnits points) := h.quotient?_size _

theorem glyphWidth? (h : i.Divides) (glyph : Nat) :
    i.glyphWidth? glyph = some (i.glyphWidth glyph) := by
  unfold Instance.glyphWidth? Instance.glyphWidth
  split
  · cases i.face.value.advance glyph i.vertical with
    | none => rfl
    | some units => exact h.unitsToPoints? units
  · rfl

theorem glyphBounds? (h : i.Divides) (glyph : Nat) :
    i.glyphBounds? glyph = some (i.glyphBounds glyph) := by
  unfold Instance.glyphBounds? Instance.glyphBounds
  rw [h.quotient?_grid]
  split <;> rfl

theorem glyphSummary? (h : i.Divides) (glyph : Nat) :
    i.glyphSummary? glyph = some (i.glyphSummary glyph) := by
  rw [Instance.glyphSummary?, h.glyphWidth?, h.glyphBounds?, glyphSummary_eq_ofExtents]
  rfl

theorem answer? (h : i.Divides) (query : Query) : i.answer? query = some (i.answer query) := by
  cases query with
  | points units =>
    have checked : i.unitsToPoints? = fun x => some (i.unitsToPoints x) := funext h.unitsToPoints?
    rw [Instance.answer?, checked]
    exact congrArg (Option.map Answer.numbers) List.mapM_pure
  | units points =>
    have checked : i.pointsToUnits? = fun x => some (i.pointsToUnits x) := funext h.pointsToUnits?
    rw [Instance.answer?, checked]
    exact congrArg (Option.map Answer.numbers) List.mapM_pure
  | glyphs glyphs =>
    have checked : i.glyphSummary? = fun x => some (i.glyphSummary x) := funext h.glyphSummary?
    rw [Instance.answer?, checked]
    exact congrArg (Option.map Answer.glyphs) List.mapM_pure
  | _ => rfl

end Divides

/-- An instance rests on what it divides by and on what its backends were asked: its size is the one
of the request, its grid is the one of its face, and the shaping backend was asked once and with
this grid. Queries find nothing zero to divide by, along the line and down the column, and the
metrics that were kept are those of the face in points. -/
structure Grounded (i : Instance) (o : Options) (tree : FileTree) (r : Request) : Prop
    extends i.Divides where
  pointSize : i.pointSize = r.pointSize
  opened : (o.outline.openFace i.data i.companion i.faceIndex).1 = .ok i.face.value
  reported : i.unitsPerEm = i.face.value.metrics.unitsPerEm
  asked : ∀ data index unitsPerEm, o.Asks tree r (.createHandle data index unitsPerEm) ↔
    data = i.data ∧ index = i.faceIndex ∧ unitsPerEm = i.unitsPerEm
  shaped : (o.shaping.createHandle i.data i.faceIndex i.unitsPerEm).1 = .ok i.shaper.value
  answered : ∀ vertical query,
    (i.setVertical vertical).answer? query = some ((i.setVertical vertical).answer query)
  ascent : i.ascent = i.unitsToPoints i.face.value.metrics.ascent
  descent : i.descent = i.unitsToPoints i.face.value.metrics.descent
  capHeight : i.capHeight =
    i.unitsToPoints (i.face.value.metrics.capHeight.getD i.face.value.metrics.ascent)
  xHeight : i.xHeight =
    i.unitsToPoints (i.face.value.metrics.xHeight.getD (i.face.value.metrics.ascent / .ofNat 2))

end Instance

namespace Options

variable {o : Options} {tree : FileTree} {r : Request} {i : Instance}

theorem Loads.unique {data data' : FontData} (h : o.Loads tree r data)
    (h' : o.Loads tree r data') : data' = data := by
  have loaded := h'.loaded
  rw [h.loaded] at loaded
  exact (Except.ok.inj loaded).symm

theorem Faces.unique {data data' : FontData} {face face' : OutlineFace}
    (h : o.Faces tree r data face) (h' : o.Faces tree r data' face') :
    data' = data ∧ face' = face := by
  obtain rfl := h.toLoads.unique h'.toLoads
  have opened := h'.opened
  rw [h.opened] at opened
  exact ⟨rfl, (Except.ok.inj opened).symm⟩

theorem faces_of_built (built : i.Built o tree r) : o.Faces tree r i.data i.face.value where
  sized := built.sized
  loaded := by
    have loaded := built.loaded
    unfold data? at loaded
    cases result : (FontData.load tree r.path o.config).1 with
    | error fault =>
      rw [result] at loaded
      cases loaded
    | ok data =>
      rw [result] at loaded
      rw [Option.some.inj loaded]
  opened := by
    rw [← built.companion]
    exact built.opened

/-- The shaping backend is asked for one handle, that of the instance. -/
theorem asks_createHandle (built : i.Built o tree r) (data : FontData) (index unitsPerEm : Nat) :
    o.Asks tree r (.createHandle data index unitsPerEm) ↔
      data = i.data ∧ index = i.faceIndex ∧ unitsPerEm = i.unitsPerEm := by
  rw [built.faceIndex, built.unitsPerEm]
  constructor
  · rintro (_ | _ | _ | ⟨faces, -⟩)
    obtain ⟨rfl, rfl⟩ := (faces_of_built built).unique faces
    exact ⟨rfl, rfl, rfl⟩
  · rintro ⟨rfl, rfl, rfl⟩
    refine .createHandle (faces_of_built built) (Nat.pos_of_ne_zero ?_)
    rw [← built.unitsPerEm]
    exact built.grid

theorem grounded_of_built (built : i.Built o tree r) : i.Grounded o tree r := by
  have accepted := built.sized
  rw [isPointSize, Bool.and_eq_true, ← built.pointSize] at accepted
  have divides : i.Divides := ⟨accepted.1, accepted.2, Nat.pos_of_ne_zero built.grid⟩
  have assembled := built.assembled
  exact
    { divides with
      pointSize := built.pointSize
      opened := by
        rw [built.faceIndex]
        exact built.opened
      reported := built.unitsPerEm
      asked := asks_createHandle built
      shaped := by
        rw [built.faceIndex]
        exact built.shaped
      answered := fun vertical => (divides.setVertical vertical).answer?
      ascent := by
        rw [assembled]
        rfl
      descent := by
        rw [assembled]
        rfl
      capHeight := by
        rw [assembled]
        rfl
      xHeight := by
        rw [assembled]
        rfl }

end Options

/-- No file is refused for its metrics before its face is read. -/
theorem FontData.load_ne_metrics (tree : FileTree) (path : Path) (config : LoadConfig)
    (fault : MetricsFault) : (FontData.load tree path config).1 ≠ .error (.metrics fault) := by
  unfold FontData.load FontData.ofFile
  repeat' split
  all_goals simp

namespace Sfnt

theorem grid_of_openFace {data : FontData} {companion : Option FontData} {index : Nat}
    {face : OutlineFace} (opened : (outlines.openFace data companion index).1 = .ok face) :
    0 < face.metrics.unitsPerEm := by
  obtain ⟨d, head, directory, rfl⟩ := Face.eq_ofDirectory_of_openFace opened
  obtain ⟨place, -, -, -, -, grid⟩ := stands_of_openDirectory directory
  exact Nat.pos_of_ne_zero grid

/-- A face of a font file without a grid is not opened at all, which is another fault. -/
theorem openFace_ne_zeroReported (data : FontData) (companion : Option FontData) (index : Nat)
    (backend : String) (path : Path) :
    (outlines.openFace data companion index).1 ≠
      .error (.metrics (.zeroReported backend path)) := by
  simp only [outlines, Face.ofData_eq]
  unfold openDirectory
  repeat' split
  all_goals simp [Except.map]

end Sfnt

namespace Options

variable {o : Options} {tree : FileTree} {r : Request} {i : Instance}

theorem not_fails_grid (fonts : o.outline = Sfnt.outlines) (fault : OpenFault) :
    ¬ o.Fails tree r .grid fault := by
  rintro ⟨⟩
  rename_i data face faces gridless
  have opened := faces.opened
  rw [fonts] at opened
  exact Nat.ne_of_gt (Sfnt.grid_of_openFace opened) gridless

theorem openInstance_ne_zeroReported (fonts : o.outline = Sfnt.outlines) (backend : String)
    (path : Path) :
    (o.openInstance tree r).1 ≠ .error (.load (.metrics (.zeroReported backend path))) := by
  intro failed
  obtain ⟨stage, fails⟩ := openInstance_eq_error.1 failed
  cases fails with
  | data sized unloaded => exact FontData.load_ne_metrics _ _ _ _ unloaded
  | outline loads refused =>
    rw [fonts] at refused
    exact Sfnt.openFace_ne_zeroReported _ _ _ _ _ refused
  | grid faces gridless => exact not_fails_grid fonts _ (.grid faces gridless)

/-- An instance that opens is grounded, whatever its backends are. Over font files a grid is never
missed: every face that the outlines open has one, and no opening fails for want of one that an
opened face was to report. -/
theorem openInstance_grounded (o : Options) (tree : FileTree) (r : Request) :
    (∀ i, (o.openInstance tree r).1 = .ok i → i.Grounded o tree r) ∧
    (o.outline = Sfnt.outlines →
      (∀ data companion index face, (o.outline.openFace data companion index).1 = .ok face →
        0 < face.metrics.unitsPerEm) ∧
      (∀ fault, ¬ o.Fails tree r .grid fault) ∧
      ∀ backend path,
        (o.openInstance tree r).1 ≠ .error (.load (.metrics (.zeroReported backend path)))) := by
  refine ⟨fun i opened => grounded_of_built (built_of_openInstance opened), fun fonts => ?_⟩
  refine ⟨fun data companion index face opened => ?_, not_fails_grid fonts,
    openInstance_ne_zeroReported fonts⟩
  rw [fonts] at opened
  exact Sfnt.grid_of_openFace opened

end Options

/-- A face whose metrics are no finite numbers. -/
def boundless : Script where
  faceCount := 1
  metrics := ⟨1000, .nan, .infinite true, some (.infinite false), none, .zero⟩
  glyphCount := 0
  chars := []
  names := []
  advances := []
  verticalAdvances := []
  boxes := []
  tables := []

def boundlessOptions : Options := ⟨.default, none, boundless.outlines, Scripted.shaping, none⟩

def Instance.keptMetrics (i : Instance) : List Binary32 :=
  [i.ascent, i.descent, i.capHeight, i.xHeight]

/-- An instance is grounded also over metrics that are no finite numbers, and keeps them so. -/
theorem grounded_boundless :
    let tree := FileTree.initial.install (.ofString "f.ttf") (.file (.ordinary (.blank 4)))
    let request : Request := ⟨.ofString "f.ttf", 0, .ofNat 12, 0⟩
    ∃ i, (boundlessOptions.openInstance tree request).1 = .ok i ∧
      i.Grounded boundlessOptions tree request ∧
      i.keptMetrics = [.nan, .infinite true, .infinite false, .nan] := by
  intro tree request
  obtain ⟨i, opened, kept⟩ : ∃ i, (boundlessOptions.openInstance tree request).1 = .ok i ∧
      i.keptMetrics = [.nan, .infinite true, .infinite false, .nan] :=
    exists_ok_of_map (by decide +kernel)
  exact ⟨i, opened, (boundlessOptions.openInstance_grounded tree request).1 i opened, kept⟩

end SizedFace
