import SizedFace.CharacterMap.Basic

namespace SizedFace.CharacterMap

/-- Ranges one after the other in a row, none of them empty. -/
structure Ascending {α : Type} (row : Array α) (range : α → Nat × Nat) : Prop where
  filled : ∀ (i : Nat) (x : α), row[i]? = some x → (range x).1 ≤ (range x).2
  apart : ∀ (i j : Nat) (x y : α), row[i]? = some x → row[j]? = some y → i < j →
    (range x).2 < (range y).1

/-- A search finds the place that its probe points to from everywhere. -/
theorem search_of_pointed {probe : Nat → Option Ordering} {low high i : Nat}
    (within : low ≤ i ∧ i < high) (pointed : ∀ j < high, probe j = some (compare i j)) :
    search probe low high = some i := by
  fun_induction search probe low high with
  | case1 low high _ middle gone =>
    rw [pointed middle (by omega)] at gone
    cases gone
  | case2 low high _ middle lt ih =>
    rw [pointed middle (by omega), Option.some.injEq, Nat.compare_eq_lt] at lt
    exact ih ⟨within.1, lt⟩ fun j inside => pointed j (by omega)
  | case3 low high _ middle gt ih =>
    rw [pointed middle (by omega), Option.some.injEq, Nat.compare_eq_gt] at gt
    exact ih ⟨gt, within.2⟩ pointed
  | case4 low high _ middle eq =>
    rw [pointed middle (by omega), Option.some.injEq, Nat.compare_eq_eq] at eq
    exact congrArg some eq.symm
  | case5 => omega

/-- On ascending ranges a search finds the one that holds the code. -/
theorem Ascending.search_iff {α : Type} {row : Array α} {range : α → Nat × Nat}
    (ascending : Ascending row range) {code i : Nat} :
    search (fun i => row[i]?.map fun x =>
        if code < (range x).1 then .lt else if (range x).2 < code then .gt else .eq)
      0 row.size = some i ↔
      ∃ x, row[i]? = some x ∧ (range x).1 ≤ code ∧ code ≤ (range x).2 := by
  constructor
  · intro found
    obtain ⟨-, inside, hit⟩ := search_eq_some found
    obtain ⟨x, at_i, hit⟩ := Option.map_eq_some_iff.1 hit
    refine ⟨x, at_i, ?_⟩
    by_cases before : code < (range x).1
    · simp [before] at hit
    · by_cases after : (range x).2 < code
      · simp [before, after] at hit
      · omega
  · intro held
    obtain ⟨x, at_i, first_le, le_last⟩ := held
    have inside := (Array.getElem?_eq_some_iff.1 at_i).1
    refine search_of_pointed ⟨Nat.zero_le _, inside⟩ fun j within => ?_
    have at_j : row[j]? = some row[j] := Array.getElem?_eq_getElem within
    simp only [at_j, Option.map_some, Option.some.injEq]
    rcases Nat.lt_trichotomy i j with before | same | after
    · have := ascending.apart i j x row[j] at_i at_j before
      rw [if_pos (by omega), Nat.compare_eq_lt.2 before]
    · subst same
      rw [at_i, Option.some.injEq] at at_j
      rw [← at_j, if_neg (by omega), if_neg (by omega), Nat.compare_eq_eq.2 rfl]
    · have := ascending.apart j i row[j] x at_j at_i after
      have := ascending.filled j row[j] at_j
      rw [if_neg (by omega), if_pos (by omega), Nat.compare_eq_gt.2 after]

def Segment.range (s : Segment) : Nat × Nat := (s.first, s.last)

def Group.range (g : Group) : Nat × Nat := (g.first, g.last)

namespace SegmentMap

/-- Where the segments before segment `i` end. -/
def reach (m : SegmentMap) (i : Nat) : Nat :=
  (m.segments.toList.take i).foldl (fun stop s => max (s.last + 1) stop) 0

/-- A code is listed with a glyph under the first segment that reaches it. It is looked up from
where the segments before that one end, if they reach into it. -/
def Lists (m : SegmentMap) (code glyph : Nat) : Prop :=
  ∃ i s, m.segments[i]? = some s ∧ s.first ≤ code ∧ code ≤ s.last ∧ m.reach i ≤ code ∧
    m.lookup i (max s.first (m.reach i)) code = some glyph

theorem getElem?_runsFrom (stop : Nat) (segments : List Segment) (i : Nat) :
    (runs stop segments)[i]? = segments[i]?.map fun s =>
      let reached := (segments.take i).foldl (fun stop s => max (s.last + 1) stop) stop
      (max s.first reached, max (s.last + 1) reached) := by
  induction segments generalizing stop i with
  | nil => rfl
  | cons s rest ih =>
    cases i with
    | zero => rfl
    | succ i => exact ih (max (s.last + 1) stop) i

/-- A run goes from where its segment starts to where it ends, but not from before the end of the
segments above. -/
theorem getElem?_runs (m : SegmentMap) (i : Nat) :
    (runs 0 m.segments.toList)[i]? = m.segments[i]?.map fun s =>
      (max s.first (m.reach i), max (s.last + 1) (m.reach i)) := by
  rw [getElem?_runsFrom, Array.getElem?_toList]
  rfl

theorem mem_entries_iff {m : SegmentMap} {code glyph : Nat} :
    (code, glyph) ∈ m.entries ↔ m.Lists code glyph := by
  simp only [entries, List.mem_flatMap, Prod.exists, List.mem_zipIdx_iff_getElem?, getElem?_runs,
    Option.map_eq_some_iff, List.mem_filterMap, List.mem_range'_1, Prod.mk.injEq]
  constructor
  · intro held
    obtain ⟨_, _, i, ⟨s, at_i, rfl, rfl⟩, _, ⟨start_le, lt_stop⟩, _, looked, rfl, rfl⟩ := held
    exact ⟨i, s, at_i, by omega, by omega, by omega, looked⟩
  · intro held
    obtain ⟨i, s, at_i, first_le, le_last, reach_le, looked⟩ := held
    exact ⟨_, _, i, ⟨s, at_i, rfl, rfl⟩, code, ⟨by omega, by omega⟩, glyph, looked, rfl, rfl⟩

theorem reach_le_iff {m : SegmentMap} {i code : Nat} :
    m.reach i ≤ code ↔ ∀ s ∈ m.segments.toList.take i, s.last < code := by
  have reached (segments : List Segment) (stop : Nat) :
      segments.foldl (fun stop s => max (s.last + 1) stop) stop ≤ code ↔
        stop ≤ code ∧ ∀ s ∈ segments, s.last < code := by
    induction segments generalizing stop with
    | nil => simp
    | cons s rest ih =>
      simp only [List.foldl_cons, ih, List.forall_mem_cons, Nat.max_le, Nat.succ_le_iff, and_assoc,
        and_left_comm]
  simp only [reach, reached, Nat.zero_le, true_and]

theorem glyph?_eq_some {m : SegmentMap} (ascending : Ascending m.segments Segment.range)
    {code glyph : Nat} :
    m.glyph? code = some glyph ↔
      code < 0x10000 ∧ ∃ i s, m.segments[i]? = some s ∧ s.first ≤ code ∧ code ≤ s.last ∧
        m.lookup i s.first code = some glyph := by
  have found (i : Nat) : search (m.probe code) 0 m.segments.size = some i ↔
      ∃ s, m.segments[i]? = some s ∧ s.first ≤ code ∧ code ≤ s.last := ascending.search_iff
  unfold glyph?
  split
  · simp only [reduceCtorEq, false_iff]
    omega
  · rw [and_iff_right (by omega)]
    constructor
    · intro looked
      cases met : search (m.probe code) 0 m.segments.size with
      | none => simp [met] at looked
      | some i =>
        obtain ⟨s, at_i, first_le, le_last⟩ := (found i).1 met
        simp only [met, at_i] at looked
        exact ⟨i, s, at_i, first_le, le_last, looked⟩
    · intro held
      obtain ⟨i, s, at_i, first_le, le_last, looked⟩ := held
      simp only [(found i).2 ⟨s, at_i, first_le, le_last⟩, at_i, looked]

/-- On ascending segments the listing and the look-up agree. -/
theorem lists_iff_glyph? {m : SegmentMap} (ascending : Ascending m.segments Segment.range)
    (words : ∀ s ∈ m.segments, s.last < 0x10000) {code glyph : Nat} :
    m.Lists code glyph ↔ m.glyph? code = some glyph := by
  have starts {i : Nat} {s : Segment} (at_i : m.segments[i]? = some s) : m.reach i ≤ s.first := by
    rw [reach_le_iff]
    intro earlier mem
    obtain ⟨j, inside, rfl⟩ := List.mem_take_iff_getElem.1 mem
    exact ascending.apart j i _ s (by simp) at_i (by omega)
  rw [glyph?_eq_some ascending]
  constructor
  · intro held
    obtain ⟨i, s, at_i, first_le, le_last, -, looked⟩ := held
    have := words s (Array.mem_of_getElem? at_i)
    rw [Nat.max_eq_left (starts at_i)] at looked
    exact ⟨by omega, i, s, at_i, first_le, le_last, looked⟩
  · intro held
    obtain ⟨-, i, s, at_i, first_le, le_last, looked⟩ := held
    have := starts at_i
    rw [← Nat.max_eq_left this] at looked
    exact ⟨i, s, at_i, first_le, le_last, by omega, looked⟩

end SegmentMap

theorem Group.lt_stop_iff {g : Group} {glyphCount code : Nat} (first_le : g.first ≤ code) :
    code < g.stop glyphCount ↔
      code ≤ g.last ∧ code < lastCodePoint ∧ g.glyph + (code - g.first) < glyphCount := by
  unfold stop
  omega

theorem Group.stop_le (g : Group) (glyphCount : Nat) : g.stop glyphCount ≤ g.last + 1 :=
  Nat.le_trans (Nat.min_le_left _ _) (Nat.min_le_left _ _)

namespace GroupMap

/-- A code is listed under a group that the group above it does not reach into. The last code point
is not listed, and no code whose glyph is past those of the face. -/
def Lists (m : GroupMap) (glyphCount code glyph : Nat) : Prop :=
  ∃ i g, m.groups[i]? = some g ∧ g.first ≤ code ∧ code < g.stop glyphCount ∧
    g.glyphOf code = glyph ∧
    ∀ j above, j + 1 = i → m.groups[j]? = some above → above.stop glyphCount ≤ code

theorem mem_listed_iff {glyphCount stop code glyph : Nat} {groups : List Group} :
    (code, glyph) ∈ listed glyphCount stop groups ↔
      ∃ i g, groups[i]? = some g ∧ g.first ≤ code ∧ code < g.stop glyphCount ∧
        g.glyphOf code = glyph ∧ (i = 0 → stop ≤ code) ∧
        ∀ j above, j + 1 = i → groups[j]? = some above → above.stop glyphCount ≤ code := by
  induction groups generalizing stop with
  | nil => simp [listed]
  | cons g rest ih =>
    simp only [listed, List.mem_append, List.mem_map, List.mem_range'_1, Prod.mk.injEq, ih]
    constructor
    · intro held
      rcases held with ⟨_, ⟨start_le, lt_stop⟩, rfl, rfl⟩ |
        ⟨i, h, at_i, first_le, lt_stop, glyph, top, next⟩
      · exact ⟨0, g, rfl, by omega, by omega, rfl, fun _ => by omega, fun j _ up => by omega⟩
      · refine ⟨i + 1, h, at_i, first_le, lt_stop, glyph, fun zero => by omega, ?_⟩
        intro j above up at_j
        cases j with
        | zero =>
          obtain rfl := Option.some.inj at_j
          exact top (by omega)
        | succ j => exact next j above (by omega) at_j
    · intro held
      obtain ⟨i, h, at_i, first_le, lt_stop, glyph, top, next⟩ := held
      cases i with
      | zero =>
        obtain rfl := Option.some.inj at_i
        have := top rfl
        exact .inl ⟨code, ⟨by omega, by omega⟩, rfl, glyph⟩
      | succ i =>
        refine .inr ⟨i, h, at_i, first_le, lt_stop, glyph, fun zero => next 0 g (by omega) rfl, ?_⟩
        exact fun j above up at_j => next (j + 1) above (by omega) at_j

theorem mem_entries_iff {m : GroupMap} {glyphCount code glyph : Nat} :
    (code, glyph) ∈ m.entries glyphCount ↔ m.Lists glyphCount code glyph := by
  simp only [entries, mem_listed_iff, Array.getElem?_toList, Nat.zero_le, implies_true, true_and,
    Lists]

theorem glyph?_eq_some {m : GroupMap} (ascending : Ascending m.groups Group.range)
    {code glyph : Nat} :
    m.glyph? code = some glyph ↔
      ∃ (i : Nat) (g : Group), m.groups[i]? = some g ∧ g.first ≤ code ∧ code ≤ g.last ∧
        g.glyphOf code = glyph := by
  have found (i : Nat) : search (m.probe code) 0 m.groups.size = some i ↔
      ∃ g, m.groups[i]? = some g ∧ g.first ≤ code ∧ code ≤ g.last := ascending.search_iff
  unfold glyph?
  constructor
  · intro looked
    cases met : search (m.probe code) 0 m.groups.size with
    | none => simp [met] at looked
    | some i =>
      obtain ⟨g, at_i, first_le, le_last⟩ := (found i).1 met
      simp only [met, at_i, Option.map_some, Option.some.injEq] at looked
      exact ⟨i, g, at_i, first_le, le_last, looked⟩
  · intro held
    obtain ⟨i, g, at_i, first_le, le_last, looked⟩ := held
    simp only [(found i).2 ⟨g, at_i, first_le, le_last⟩, at_i, Option.map_some, looked]

/-- A group gives the code a glyph past those of the face. -/
def Exceeds (m : GroupMap) (glyphCount code : Nat) : Prop :=
  ∃ g ∈ m.groups, g.first ≤ code ∧ code ≤ g.last ∧ glyphCount ≤ g.glyph + (code - g.first)

/-- On ascending groups the listing has what the look-up finds, but for the last code point and for
glyphs past those of the face. -/
theorem lists_iff_glyph? {m : GroupMap} (ascending : Ascending m.groups Group.range)
    {glyphCount code glyph : Nat} :
    m.Lists glyphCount code glyph ↔
      m.glyph? code = some glyph ∧ code < lastCodePoint ∧ ¬ m.Exceeds glyphCount code := by
  rw [glyph?_eq_some ascending]
  constructor
  · intro held
    obtain ⟨i, g, at_i, first_le, lt_stop, looked, -⟩ := held
    obtain ⟨le_last, before, counted⟩ := (Group.lt_stop_iff first_le).1 lt_stop
    refine ⟨⟨i, g, at_i, first_le, le_last, looked⟩, before, ?_⟩
    intro held
    obtain ⟨h, mem, first_le', le_last', past⟩ := held
    obtain ⟨j, at_j⟩ := Array.mem_iff_getElem?.1 mem
    rcases Nat.lt_trichotomy i j with less | same | more
    · have apart : g.last < h.first := ascending.apart i j g h at_i at_j less
      omega
    · subst same
      rw [at_i] at at_j
      cases at_j
      omega
    · have apart : h.last < g.first := ascending.apart j i h g at_j at_i more
      omega
  · intro held
    obtain ⟨⟨i, g, at_i, first_le, le_last, looked⟩, before, counted⟩ := held
    have within : g.glyph + (code - g.first) < glyphCount := by
      refine Nat.lt_of_not_le fun past => counted ?_
      exact ⟨g, Array.mem_of_getElem? at_i, first_le, le_last, past⟩
    refine ⟨i, g, at_i, first_le, (Group.lt_stop_iff first_le).2 ⟨le_last, before, within⟩,
      looked, fun j above up at_j => ?_⟩
    have apart : above.last < g.first := ascending.apart j i above g at_j at_i (by omega)
    calc
      above.stop glyphCount ≤ above.last + 1 := above.stop_le glyphCount
      _ ≤ g.first := apart
      _ ≤ code := first_le

end GroupMap

end SizedFace.CharacterMap
