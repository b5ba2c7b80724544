import SizedFace.Binary32.Order
import SizedFace.Sfnt.Face

namespace SizedFace

open Binary32

abbrev PenPoint := Binary32 × Binary32

/-- All coordinates of points are of a kind. -/
def Everywhere (kind : Binary32 → Prop) (points : List PenPoint) : Prop :=
  ∀ p ∈ points, kind p.1 ∧ kind p.2

/-- Two of the values are the lowest and the highest one. -/
structure Extent (values : List Binary32) (low high : Binary32) : Prop where
  lowest : low ∈ values
  highest : high ∈ values
  between : ∀ v ∈ values, low.le v = true ∧ v.le high = true
  ordered : low.le high = true

/-- A box is the least one around points: they are inside, and each edge goes through one. -/
structure Hull (points : List PenPoint) (box : Box) : Prop where
  across : Extent (points.map (·.1)) box.xMin box.xMax
  upward : Extent (points.map (·.2)) box.yMin box.yMax

namespace Extent

variable {values others : List Binary32} {low high low' high' : Binary32}

theorem single {v : Binary32} (number : v ≠ .nan) : Extent [v] (v.min v) (v.max v) := by
  have low : v.min v = v := (min_eq_or number number).elim id id
  have high : v.max v = v := (max_eq_or number number).elim id id
  have own : v.le v = true := (le_iff_rank number number).2 (Int.le_refl _)
  rw [low, high]
  refine ⟨by simp, by simp, ?_, own⟩
  intro w mem
  obtain rfl := List.mem_singleton.1 mem
  exact ⟨own, own⟩

/-- One value more takes the place of an end that it is beyond. -/
theorem concat (h : Extent values low high) (numbers : ∀ w ∈ values, w ≠ .nan) {v : Binary32}
    (number : v ≠ .nan) : Extent (values ++ [v]) (low.min v) (high.max v) := by
  have lowNumber := numbers low h.lowest
  have highNumber := numbers high h.highest
  have lowest : low.min v ∈ values ++ [v] := by
    rcases min_eq_or lowNumber number with same | same <;> simp [same, h.lowest]
  have highest : high.max v ∈ values ++ [v] := by
    rcases max_eq_or highNumber number with same | same <;> simp [same, h.highest]
  have all : ∀ w ∈ values ++ [v], w ≠ .nan := by
    simpa [or_imp, forall_and] using ⟨numbers, number⟩
  have order := (le_iff_rank lowNumber highNumber).1 h.ordered
  have inside : ∀ w ∈ values ++ [v], low.rank ≤ w.rank ∧ w.rank ≤ high.rank ∨ w = v := by
    intro w mem
    rcases List.mem_append.1 mem with old | new
    · obtain ⟨above, below⟩ := h.between w old
      exact .inl ⟨(le_iff_rank lowNumber (numbers w old)).1 above,
        (le_iff_rank (numbers w old) highNumber).1 below⟩
    · exact .inr (List.mem_singleton.1 new)
  have lowRank := rank_min lowNumber number
  have highRank := rank_max highNumber number
  refine ⟨lowest, highest, fun w mem => ?_, ?_⟩
  · rw [le_iff_rank (all _ lowest) (all w mem), le_iff_rank (all w mem) (all _ highest), lowRank,
      highRank]
    rcases inside w mem with between | rfl <;> omega
  · rw [le_iff_rank (all _ lowest) (all _ highest), lowRank, highRank]
    omega

/-- The same values have ends in the same places. -/
theorem rank_eq (h : Extent values low high) (h' : Extent others low' high')
    (numbers : ∀ v ∈ values, v ≠ .nan) (set : ∀ v, v ∈ values ↔ v ∈ others) :
    low.rank = low'.rank ∧ high.rank = high'.rank := by
  have number {v : Binary32} (mem : v ∈ others) : v ≠ .nan := numbers v ((set v).2 mem)
  have rank {v w : Binary32} (mem : v ∈ others) (mem' : w ∈ others) (le : v.le w = true) :
      v.rank ≤ w.rank := (le_iff_rank (number mem) (number mem')).1 le
  have low_mem := (set low).1 h.lowest
  have high_mem := (set high).1 h.highest
  have lows := rank low_mem h'.lowest (h.between low' ((set low').2 h'.lowest)).1
  have lows' := rank h'.lowest low_mem (h'.between low low_mem).1
  have highs := rank h'.highest high_mem (h.between high' ((set high').2 h'.highest)).2
  have highs' := rank high_mem h'.highest (h'.between high high_mem).2
  omega

theorem same (h : Extent values low high) (h' : Extent others low' high')
    (numbers : ∀ v ∈ values, v ≠ .nan) (set : ∀ v, v ∈ values ↔ v ∈ others) :
    low.same low' = true ∧ high.same high' = true := by
  obtain ⟨lows, highs⟩ := h.rank_eq h' numbers set
  have number {v : Binary32} (mem : v ∈ others) : v ≠ .nan := numbers v ((set v).2 mem)
  exact ⟨(same_iff_rank (numbers low h.lowest) (number h'.lowest)).2 lows,
    (same_iff_rank (numbers high h.highest) (number h'.highest)).2 highs⟩

end Extent

namespace Everywhere

variable {kind : Binary32 → Prop} {points : List PenPoint}

theorem firsts (h : Everywhere kind points) : ∀ v ∈ points.map (·.1), kind v :=
  List.forall_mem_map.2 fun p mem => (h p mem).1

theorem seconds (h : Everywhere kind points) : ∀ v ∈ points.map (·.2), kind v :=
  List.forall_mem_map.2 fun p mem => (h p mem).2

theorem append_iff {more : List PenPoint} :
    Everywhere kind (points ++ more) ↔ Everywhere kind points ∧ Everywhere kind more :=
  List.forall_mem_append

theorem congr {others : List PenPoint} (h : Everywhere kind points)
    (set : ∀ p, p ∈ points ↔ p ∈ others) : Everywhere kind others :=
  fun p mem => h p ((set p).2 mem)

theorem number (h : Everywhere IsPlain points) : Everywhere (· ≠ .nan) points :=
  fun p mem => ⟨(h p mem).1.1, (h p mem).2.1⟩

end Everywhere

namespace Hull

variable {points others : List PenPoint} {box box' : Box}

theorem single {p : PenPoint} (numbers : Everywhere (· ≠ .nan) [p]) :
    Hull [p] (Outline.widen (Outline.pointBox p) p) := by
  obtain ⟨first, second⟩ := numbers p (List.mem_singleton_self p)
  exact ⟨.single first, .single second⟩

/-- A box that is widened is the hull of one point more. -/
theorem concat (h : Hull points box) {p : PenPoint}
    (numbers : Everywhere (· ≠ .nan) (points ++ [p])) :
    Hull (points ++ [p]) (Outline.widen box p) := by
  have old := (Everywhere.append_iff.1 numbers).1
  obtain ⟨first, second⟩ := numbers p (by simp)
  constructor
  · rw [List.map_append]
    exact h.across.concat old.firsts first
  · rw [List.map_append]
    exact h.upward.concat old.seconds second

theorem ne_nil (h : Hull points box) : points ≠ [] := by
  rintro rfl
  exact List.not_mem_nil h.across.lowest

/-- The same points have one hull, but for the signs of zeros. -/
theorem same (h : Hull points box) (h' : Hull others box')
    (numbers : Everywhere (· ≠ .nan) points) (set : ∀ p, p ∈ points ↔ p ∈ others) :
    box.same box' = true := by
  obtain ⟨left, right⟩ := h.across.same h'.across numbers.firsts (by simp [set])
  obtain ⟨bottom, top⟩ := h.upward.same h'.upward numbers.seconds (by simp [set])
  simp only [Box.same, left, bottom, right, top, Bool.and_self]

end Hull

/-- What a pen knows after some points: nothing before the first one, then their hull. -/
def Tracks (points : List PenPoint) : Option Box → Prop
  | none => points = []
  | some box => Hull points box

namespace Tracks

variable {points : List PenPoint} {box : Option Box}

theorem addPoint (h : Tracks points box) {p : PenPoint}
    (numbers : Everywhere (· ≠ .nan) (points ++ [p])) :
    Tracks (points ++ [p]) (Outline.addPoint box p) := by
  cases box with
  | none =>
    obtain rfl : points = [] := h
    exact Hull.single numbers
  | some box => exact Hull.concat h numbers

theorem addPoints (h : Tracks points box) (more : List PenPoint)
    (numbers : Everywhere (· ≠ .nan) (points ++ more)) :
    Tracks (points ++ more) (more.foldl Outline.addPoint box) := by
  induction more generalizing points box with
  | nil => simpa using h
  | cons p rest ih =>
    rw [List.append_cons] at numbers ⊢
    exact ih (h.addPoint (Everywhere.append_iff.1 numbers).1) numbers

theorem controlBox {outline : Outline} (numbers : Everywhere (· ≠ .nan) outline.points) :
    Tracks outline.points outline.controlBox := by
  have start : Tracks [] none := rfl
  rw [Outline.controlBox_eq]
  exact start.addPoints outline.points numbers

end Tracks

/-- What happens while a glyph is drawn. -/
inductive DrawStep where
  /-- The pen is given a command. -/
  | pen (command : PenCommand)
  /-- The outline turns out to be one that cannot be followed any further. -/
  | fail

def DrawStep.points : DrawStep → List PenPoint
  | .pen command => command.points
  | .fail => []

abbrev Drawing := List DrawStep

namespace Drawing

def points (d : Drawing) : List PenPoint := d.flatMap DrawStep.points

def outline? : Drawing → Option Outline
  | [] => some []
  | .pen command :: rest => (outline? rest).map (command :: ·)
  | .fail :: _ => none

/-- The box of a pen after a drawing that began with another box, unless the drawing fails. -/
def run (box : Option Box) : Drawing → Option (Option Box)
  | [] => some box
  | .pen command :: rest => run (command.points.foldl Outline.addPoint box) rest
  | .fail :: _ => none

/-- The box that a fresh pen made of a drawing, if it made one and the drawing did not fail. -/
def controlBox (d : Drawing) : Option Box := (d.run none).join

/-- A drawing has the box that its points make. There is one when the drawing comes to its end and
goes through some point, and it is their hull; a drawing that fails has none, whatever it gave the
pen before. The points alone decide, so closing a path does not count, and neither do the order and
the number of times that they are gone through. -/
structure Boxed (d : Drawing) : Prop where
  exists_iff : (∃ box, d.controlBox = some box) ↔ .fail ∉ d ∧ d.points ≠ []
  hull : ∀ box, d.controlBox = some box → Hull d.points box
  failed : ∀ before after, d = before ++ .fail :: after → d.controlBox = none
  closing : ∀ before after, d = before ++ .pen .close :: after →
    d.controlBox = controlBox (before ++ after)
  points_decide : ∀ e : Drawing, (.fail ∈ e ↔ .fail ∈ d) → (∀ p, p ∈ d.points ↔ p ∈ e.points) →
    Option.Rel (fun a b => a.same b = true) d.controlBox e.controlBox

theorem run_eq (d : Drawing) (box : Option Box) :
    d.run box = d.outline?.map fun outline =>
      outline.foldl (fun box command => command.points.foldl Outline.addPoint box) box := by
  induction d generalizing box with
  | nil => rfl
  | cons step rest ih =>
    cases step with
    | pen command =>
      rw [run, ih, outline?, Option.map_map]
      rfl
    | fail => rfl

theorem controlBox_eq_bind (d : Drawing) : d.controlBox = d.outline?.bind Outline.controlBox := by
  rw [controlBox, run_eq]
  cases d.outline? <;> rfl

theorem outline?_eq_some {d : Drawing} {outline : Outline} :
    d.outline? = some outline ↔ d = outline.map .pen := by
  induction d generalizing outline with
  | nil => simp [outline?, eq_comm]
  | cons step rest ih =>
    cases step with
    | pen command =>
      simp only [outline?, Option.map_eq_some_iff, ih]
      cases outline with
      | nil => simp
      | cons other more =>
        constructor
        · intro held
          obtain ⟨drawn, own, same⟩ := held
          obtain ⟨rfl, rfl⟩ := List.cons.inj same
          rw [own]
          rfl
        · intro same
          obtain ⟨first, own⟩ := List.cons.inj same
          exact ⟨more, own, by rw [DrawStep.pen.inj first]⟩
    | fail => cases outline <;> simp [outline?]

theorem points_map_pen (outline : Outline) : points (outline.map .pen) = outline.points :=
  List.flatMap_map ..

theorem outline?_eq_none {d : Drawing} : d.outline? = none ↔ .fail ∈ d := by
  induction d with
  | nil => simp [outline?]
  | cons step rest ih => cases step <;> simp [outline?, ih]

/-- What is left of a drawing: nothing where it fails or goes nowhere, else the hull. -/
inductive Leaves (d : Drawing) : Option Box → Prop where
  | nothing (idle : .fail ∉ d → d.points = []) : Leaves d none
  | box {box : Box} (completes : .fail ∉ d) (hull : Hull d.points box) : Leaves d (some box)

theorem leaves_controlBox (d : Drawing) (numbers : Everywhere (· ≠ .nan) d.points) :
    d.Leaves d.controlBox := by
  rw [controlBox_eq_bind]
  cases drawn : d.outline? with
  | none => exact .nothing fun completes => absurd (outline?_eq_none.1 drawn) completes
  | some outline =>
    have completes : .fail ∉ d := fun failed => by
      rw [outline?_eq_none.2 failed] at drawn
      cases drawn
    obtain rfl := outline?_eq_some.1 drawn
    rw [points_map_pen] at numbers
    have tracks := Tracks.controlBox numbers
    rw [Option.bind_some]
    cases made : outline.controlBox with
    | none =>
      rw [made] at tracks
      exact .nothing fun _ => (points_map_pen outline).trans tracks
    | some box =>
      rw [made] at tracks
      refine .box completes ?_
      rw [points_map_pen]
      exact tracks

theorem Leaves.exists_iff {d : Drawing} {result : Option Box} (h : d.Leaves result) :
    (∃ box, result = some box) ↔ .fail ∉ d ∧ d.points ≠ [] := by
  cases h with
  | nothing idle => exact ⟨nofun, fun held => absurd (idle held.1) held.2⟩
  | @box box completes hull => exact ⟨fun _ => ⟨completes, hull.ne_nil⟩, fun _ => ⟨box, rfl⟩⟩

theorem Leaves.hull {d : Drawing} {box : Box} (h : d.Leaves (some box)) : Hull d.points box := by
  cases h with
  | box completes hull => exact hull

/-- Drawings through the same points end alike, with related boxes if their hulls are related. -/
theorem Leaves.rel {d e : Drawing} {result result' : Option Box} (h : d.Leaves result)
    (h' : e.Leaves result') (fails : .fail ∈ e ↔ .fail ∈ d)
    (set : ∀ p, p ∈ d.points ↔ p ∈ e.points) {related : Box → Box → Prop}
    (hulls : ∀ a b, Hull d.points a → Hull e.points b → related a b) :
    Option.Rel related result result' := by
  have empty : d.points = [] ↔ e.points = [] := by
    simp only [List.eq_nil_iff_forall_not_mem, set]
  have both : (∃ a, result = some a) ↔ ∃ b, result' = some b := by
    rw [h.exists_iff, h'.exists_iff, fails, Ne, empty]
  cases result with
  | none => cases result' with
    | none => exact .none
    | some b => exact absurd (both.2 ⟨b, rfl⟩) nofun
  | some a => cases result' with
    | none => exact absurd (both.1 ⟨a, rfl⟩) nofun
    | some b => exact .some (hulls a b h.hull h'.hull)

theorem run_close (before after : Drawing) (box : Option Box) :
    run box (before ++ .pen .close :: after) = run box (before ++ after) := by
  induction before generalizing box with
  | nil => rfl
  | cons step rest ih =>
    cases step with
    | pen command => exact ih _
    | fail => rfl

theorem boxed (d : Drawing) (numbers : Everywhere (· ≠ .nan) d.points) : d.Boxed := by
  have leaves := d.leaves_controlBox numbers
  refine ⟨leaves.exists_iff, ?_, ?_, ?_, ?_⟩
  · intro box made
    rw [made] at leaves
    exact leaves.hull
  · intro before after split
    have failed : .fail ∈ d := by simp [split]
    rw [controlBox_eq_bind, outline?_eq_none.2 failed]
    rfl
  · intro before after split
    rw [split, controlBox, run_close]
    rfl
  · intro e fails set
    have leaves' := e.leaves_controlBox (numbers.congr set)
    exact leaves.rel leaves' fails set fun a b hull hull' => hull.same hull' numbers set

end Drawing

/-- No coordinate that an outline gives the pen is NaN or a negative zero. -/
def Outline.Plain (outline : Outline) : Prop := Everywhere IsPlain outline.points

namespace Outline

@[simp] theorem plain_nil : Plain [] := by simp [Plain, Everywhere, points]

@[simp] theorem plain_cons {command : PenCommand} {rest : Outline} :
    Plain (command :: rest) ↔ Everywhere IsPlain command.points ∧ Plain rest :=
  Everywhere.append_iff

end Outline

namespace Contour

end Contour

namespace Sfnt.Face

end Sfnt.Face

namespace Drawing

/-- The points off the curve count as well. -/
example :
    let drawing : Drawing := [.pen (.move (.ofInt 10) .zero), .pen (.line (.ofInt 100) .zero),
      .pen (.quad (.ofInt 120) (.ofInt 350) (.ofInt 100) (.ofInt 700)),
      .pen (.curve (.ofInt (-5)) (.ofInt 720) .zero (.ofInt (-30)) (.ofInt 10) .zero), .pen .close]
    drawing.controlBox = some ⟨.ofInt (-5), .ofInt (-30), .ofInt 120, .ofInt 720⟩ := by
  decide +kernel

end Drawing
end SizedFace
