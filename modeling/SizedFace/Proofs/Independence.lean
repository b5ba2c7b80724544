import SizedFace.Proofs.Replies

namespace SizedFace

def Step.direction? (slot : String) : Step → Option Bool
  | .setVertical other vertical => if other = slot then some vertical else none
  | _ => none

/-- The direction of the instance of a slot after some steps: the last one they give it. -/
def Step.direction (slot : String) (before : Bool) (steps : List Step) : Bool :=
  (steps.filterMap (·.direction? slot)).getLast?.getD before

theorem Step.direction_cons (slot : String) (before : Bool) (step : Step) (rest : List Step) :
    direction slot before (step :: rest) =
      direction slot ((step.direction? slot).getD before) rest := by
  unfold direction
  cases given : step.direction? slot with
  | none => rw [List.filterMap_cons_none given, Option.getD_none]
  | some vertical =>
    rw [List.filterMap_cons_some given, List.getLast?_cons, Option.getD_some, Option.getD_some]

/-- Whether a step takes the file that is at a place away from there. -/
def Step.takes (tree : FileTree) (place : Place) : Step → Bool
  | .write path _ => place = FileTree.placeOf path
  | .remove path => (tree.remove path).2 && place = FileTree.placeOf path
  | _ => false

def Step.inPlace : Step → Bool
  | .overwrite .. => true
  | _ => false

theorem Step.slot?_ne_of_unconcerned {slot : String} {step : Step}
    (unconcerned : ¬ step.concerns slot = true) : step.slot? ≠ some slot := by
  intro named
  apply unconcerned
  cases step <;> simp_all [Step.concerns, Step.slot?]

namespace Session

theorem turns_cons_of_named {s : Session} {slot : String} {step : Step} {rest : List Step}
    (named : step.slot? = some slot) :
    s.turns slot (step :: rest) = s.turn step :: (s.advance step).1.turns slot rest := by
  simp only [turns, named, if_true]

theorem turns_cons_of_other {s : Session} {slot : String} {step : Step} {rest : List Step}
    (other : step.slot? ≠ some slot) :
    s.turns slot (step :: rest) = (s.advance step).1.turns slot rest := by
  simp only [turns, other, if_false]

theorem repliesAt_cons_of_named {s : Session} {slot : String} {step : Step} {rest : List Step}
    (named : step.slot? = some slot) :
    s.repliesAt slot (step :: rest) = s.reply step :: (s.advance step).1.repliesAt slot rest := by
  simp only [repliesAt, named, if_true]

theorem repliesAt_cons_of_other {s : Session} {slot : String} {step : Step} {rest : List Step}
    (other : step.slot? ≠ some slot) :
    s.repliesAt slot (step :: rest) = (s.advance step).1.repliesAt slot rest := by
  simp only [repliesAt, other, if_false]

theorem repliesAt_of_turns_nil {s : Session} {slot : String} {steps : List Step}
    (none : s.turns slot steps = []) : s.repliesAt slot steps = [] := by
  induction steps generalizing s with
  | nil => rfl
  | cons step rest ih =>
    by_cases named : step.slot? = some slot
    · rw [turns_cons_of_named named] at none
      cases none
    · rw [turns_cons_of_other named] at none
      rw [repliesAt_cons_of_other named]
      exact ih none

/-- The first thing that comes to a slot in an undisturbed run comes to it as it was at the start.
-/
theorem exists_first_turn {s : Session} {slot : String} {steps : List Step}
    {first : Step × Option Sight} {later : List (Step × Option Sight)}
    (comes : s.turns slot steps = first :: later) (calm : s.Undisturbed slot steps) :
    ∃ t step rest, Alike slot s t ∧ step.slot? = some slot ∧ first = t.turn step ∧
      later = (t.advance step).1.turns slot rest ∧ (t.advance step).1.Undisturbed slot rest ∧
      s.repliesAt slot steps = t.reply step :: (t.advance step).1.repliesAt slot rest := by
  induction steps generalizing s with
  | nil => cases comes
  | cons step rest ih =>
    by_cases named : step.slot? = some slot
    · rw [turns_cons_of_named named] at comes
      cases comes
      exact ⟨s, step, rest, .refl slot s, named, rfl, rfl, calm.2, repliesAt_cons_of_named named⟩
    · rw [turns_cons_of_other named] at comes
      obtain ⟨t, step', rest', alike, named', same, tail, calm', replies⟩ := ih comes calm.2
      refine ⟨t, step', rest', (Alike.pass named calm.1).trans alike, named', same, tail, calm', ?_⟩
      rw [repliesAt_cons_of_other named, replies]

/-- Where the same comes to slots that are alike, it has the same replies: one run goes step by
step, and the other keeps still at the slot until its own next step that names it. -/
theorem Alike.repliesAt {slot : String} {s t : Session} (h : Alike slot s t)
    {steps others : List Step} (calm : s.Undisturbed slot steps)
    (calm' : t.Undisturbed slot others) (comes : t.turns slot others = s.turns slot steps) :
    t.repliesAt slot others = s.repliesAt slot steps := by
  induction steps generalizing s t others with
  | nil => exact repliesAt_of_turns_nil comes
  | cons step rest ih =>
    by_cases named : step.slot? = some slot
    · rw [turns_cons_of_named named] at comes
      obtain ⟨t', step', rest', alike, named', same, tail, calm', replies⟩ :=
        exists_first_turn comes calm'
      obtain rfl : step = step' := congrArg Prod.fst same
      obtain ⟨reply, next⟩ := (h.trans alike).advance named same.symm
      rw [replies, repliesAt_cons_of_named named, reply, ih next calm.2 calm' tail.symm]
    · rw [turns_cons_of_other named] at comes
      rw [repliesAt_cons_of_other named]
      exact ih ((Alike.pass named calm.1).symm.trans h) calm.2 calm' comes

/-- A step that does not name a slot takes files from under it, at most. -/
theorem maps_advance_of_ne (s : Session) {slot : String} {step : Step}
    (other : step.slot? ≠ some slot) (place : Place) :
    (s.advance step).1.maps slot place = (s.maps slot place && !step.takes s.tree place) := by
  cases step with
  | openInstance own choice path faceIndex size =>
    have apart : slot ≠ own := fun same => other (by rw [same]; rfl)
    simp only [advance, maps, view?_openVacant_of_ne _ _ _ _ _ apart, view?_vacate_of_ne _ apart,
      Step.takes, Bool.not_false, Bool.and_true]
  | destroy own =>
    have apart : slot ≠ own := fun same => other (by rw [same]; rfl)
    rw [advance_destroy, maps, view?_vacate_of_ne _ apart]
    exact (Bool.and_true _).symm
  | drop own =>
    have apart : slot ≠ own := fun same => other (by rw [same]; rfl)
    rw [advance_drop, maps, view?_vacate_of_ne _ apart]
    exact (Bool.and_true _).symm
  | ask own query =>
    simp only [advance, Step.takes, Bool.not_false, Bool.and_true]
    split <;> rfl
  | setVertical own vertical =>
    simp only [advance, Step.takes, Bool.not_false, Bool.and_true]
    split <;> rfl
  | write path content =>
    have detached := s.maps_detach (FileTree.placeOf path) place slot
    simp only [Step.takes, ← decide_not]
    exact detached
  | overwrite path content beyond => exact (Bool.and_true _).symm
  | remove path =>
    have detached := s.maps_detach (FileTree.placeOf path) place slot
    cases found : (s.tree.remove path).2 with
    | false =>
      simp only [advance, found, Step.takes, Bool.false_and, Bool.not_false, Bool.and_true]
      rfl
    | true =>
      simp only [advance, found, Step.takes, Bool.true_and, if_true, ← decide_not]
      exact detached
  | count => exact (Bool.and_true _).symm

/-- An opening makes its slot map what its instance took from files by mapping them. -/
theorem maps_openVacant_self (s : Session) (slot : String) (choice : Choice) (path : Path)
    (faceIndex : Nat) (size : Binary32) (place : Place) :
    (s.openVacant slot choice path faceIndex size).1.maps slot place =
      match ((s.attempt choice path faceIndex size).renumber 0).1 with
      | .ok i => (choice.view s.tree path i).maps place
      | .error _ => s.maps slot place := by
  cases made : (s.attempt choice path faceIndex size).1 with
  | error fault =>
    rw [openVacant_of_error slot made]
    simp only [Opened.renumber, made]
    rfl
  | ok i =>
    rw [openVacant_of_ok slot made]
    simp only [Opened.renumber, made]
    exact maps_watch_self _ slot _ place

/-- What the steps that name a slot make it map. -/
theorem maps_advance_of_eq (s : Session) {slot : String} {step : Step}
    (named : step.slot? = some slot) (place : Place) :
    (s.advance step).1.maps slot place =
      match step with
      | .openInstance _ choice path faceIndex size =>
        match ((s.attempt choice path faceIndex size).renumber 0).1 with
        | .ok i => (choice.view s.tree path i).maps place
        | .error _ => (s.vacate slot).maps slot place
      | .destroy _ | .drop _ => (s.vacate slot).maps slot place
      | _ => s.maps slot place := by
  cases step with
  | openInstance _ choice path faceIndex size =>
    cases named
    simp only [advance, maps_openVacant_self, attempt_vacate, (s.sameOutside_vacate slot).tree]
  | ask _ query =>
    simp only [advance]
    split <;> rfl
  | setVertical _ vertical =>
    simp only [advance]
    split <;> rfl
  | destroy _ =>
    cases named
    rw [advance_destroy]
  | drop _ =>
    cases named
    rw [advance_drop]
  | write path content => cases named
  | overwrite path content beyond => cases named
  | remove path => cases named
  | count => cases named

/-- Two sessions that no undisturbed run can tell apart at a slot: the same files, and at the slot
the same instance that maps the same files. -/
structure Twin (slot : String) (s t : Session) : Prop extends Alike slot s t where
  tree : t.tree = s.tree
  maps : ∀ place, t.maps slot place = s.maps slot place

namespace Twin

variable {slot : String} {s t : Session}

theorem refl (slot : String) (s : Session) : Twin slot s s := ⟨.refl slot s, rfl, fun _ => rfl⟩

theorem outside (h : Twin slot s t) : SameOutside s t := ⟨h.tree, h.config⟩

theorem disturbs (h : Twin slot s t) (step : Step) :
    t.disturbs slot step = s.disturbs slot step := by
  cases step with
  | overwrite path content beyond => exact h.maps _
  | _ => rfl

/-- One session may take a step that does not concern the slot. -/
theorem skip (h : Twin slot s t) {step : Step} (unconcerned : ¬ step.concerns slot = true) :
    Twin slot (s.advance step).1 t := by
  have other := Step.slot?_ne_of_unconcerned unconcerned
  have unchanged : step.change s.tree = s.tree := by
    cases step with
    | write path content => exact absurd rfl unconcerned
    | overwrite path content beyond => exact absurd rfl unconcerned
    | remove path => exact absurd rfl unconcerned
    | _ => rfl
  have calm : s.disturbs slot step = false := by
    cases step with
    | overwrite path content beyond => exact absurd rfl unconcerned
    | _ => rfl
  refine ⟨(Alike.pass other calm).symm.trans h.toAlike, ?_, fun place => ?_⟩
  · rw [tree_advance, unchanged, h.tree]
  · have kept : step.takes s.tree place = false := by
      cases step with
      | write path content => exact absurd rfl unconcerned
      | remove path => exact absurd rfl unconcerned
      | _ => rfl
    rw [s.maps_advance_of_ne other, kept, Bool.not_false, Bool.and_true, h.maps]

theorem maps_vacate (h : Twin slot s t) (place : Place) :
    (t.vacate slot).maps slot place = (s.vacate slot).maps slot place := by
  rw [maps_vacate_self, maps_vacate_self, h.isSome_slot?, h.maps]

theorem maps_advance (h : Twin slot s t) {step : Step} (named : step.slot? = some slot)
    (place : Place) : (t.advance step).1.maps slot place = (s.advance step).1.maps slot place := by
  rw [maps_advance_of_eq t named, maps_advance_of_eq s named]
  cases step with
  | openInstance _ choice path faceIndex size =>
    have same : (t.attempt choice path faceIndex size).renumber 0 =
        (s.attempt choice path faceIndex size).renumber 0 :=
      h.attempt faceIndex size (by rw [h.tree])
    simp only [same, h.tree, h.maps_vacate place]
  | destroy _ | drop _ => exact h.maps_vacate place
  | _ => exact h.maps place

/-- Both may take the same step. -/
theorem advance (h : Twin slot s t) {step : Step} (calm : s.disturbs slot step = false) :
    Twin slot (s.advance step).1 (t.advance step).1 := by
  have tree : (t.advance step).1.tree = (s.advance step).1.tree := by
    rw [tree_advance, tree_advance, h.tree]
  by_cases named : step.slot? = some slot
  · exact ⟨(h.toAlike.advance named (h.outside.turn step)).2, tree, h.maps_advance named⟩
  · have theirs := Alike.pass named ((h.disturbs step).trans calm)
    refine ⟨((Alike.pass named calm).symm.trans h.toAlike).trans theirs, tree, fun place => ?_⟩
    rw [maps_advance_of_ne s named, maps_advance_of_ne t named, h.maps, h.tree]

/-- Of an undisturbed run, only the steps that name a slot or change files tell what comes to it. -/
theorem filter (h : Twin slot s t) {steps : List Step} (calm : s.Undisturbed slot steps) :
    t.Undisturbed slot (steps.filter (·.concerns slot)) ∧
      t.turns slot (steps.filter (·.concerns slot)) = s.turns slot steps := by
  induction steps generalizing s t with
  | nil => exact ⟨trivial, rfl⟩
  | cons step rest ih =>
    by_cases concerned : step.concerns slot = true
    · obtain ⟨still, later⟩ := ih (h.advance calm.1) calm.2
      rw [List.filter_cons_of_pos concerned]
      refine ⟨⟨(h.disturbs step).trans calm.1, still⟩, ?_⟩
      by_cases named : step.slot? = some slot
      · rw [turns_cons_of_named named, turns_cons_of_named named, h.outside.turn, later]
      · rw [turns_cons_of_other named, turns_cons_of_other named, later]
    · have other := Step.slot?_ne_of_unconcerned concerned
      rw [List.filter_cons_of_neg concerned, turns_cons_of_other other]
      exact ih (h.skip concerned) calm.2

end Twin

/-- Only in-place changes disturb. -/
theorem undisturbed_of_inPlace {s : Session} {slot : String} {steps : List Step}
    (apart : ∀ step ∈ steps, step.inPlace = false) : s.Undisturbed slot steps := by
  induction steps generalizing s with
  | nil => trivial
  | cons step rest ih =>
    obtain ⟨first, others⟩ := List.forall_mem_cons.1 apart
    refine ⟨?_, ih others⟩
    cases step with
    | overwrite path content beyond => cases first
    | _ => rfl

theorem slot?_advance_of_ends {slot : String} {s : Session} {step : Step}
    (kept : step.ends slot = false) (calm : s.disturbs slot step = false) :
    (s.advance step).1.slot? slot =
      (s.slot? slot).map fun i => i.setVertical ((step.direction? slot).getD i.vertical) := by
  by_cases named : step.slot? = some slot
  · cases step with
    | ask _ query =>
      cases named
      cases held : s.slot? slot with
      | none => simp only [advance, held, Option.map]
      | some i =>
        simp only [advance, held, Option.map]
        rfl
    | setVertical _ vertical =>
      cases named
      cases held : s.slot? slot with
      | none => simp only [advance, held, Option.map]
      | some i =>
        simp only [advance, held, slot?_put_self, Step.direction?, if_true, Option.getD_some,
          Option.map]
    | _ => simp_all [Step.ends, Step.slot?]
  · have quiet : step.direction? slot = none := by
      cases step <;> simp_all [Step.direction?, Step.slot?]
    rw [slot?_advance_of_ne s named calm, quiet]
    exact Option.map_id'.symm

/-- Steps that do not end what a slot holds turn it to the last direction that they give it, and an
undisturbed run changes nothing else of it. -/
theorem slot?_run {slot : String} {s : Session} {steps : List Step}
    (kept : ∀ step ∈ steps, step.ends slot = false) (calm : s.Undisturbed slot steps) :
    (s.run steps).1.slot? slot =
      (s.slot? slot).map fun i => i.setVertical (Step.direction slot i.vertical steps) := by
  induction steps generalizing s with
  | nil => exact Option.map_id'.symm
  | cons step rest ih =>
    obtain ⟨first, others⟩ := List.forall_mem_cons.1 kept
    have turned := ih others calm.2
    rw [slot?_advance_of_ends first calm.1, Option.map_map] at turned
    simp only [Step.direction_cons]
    exact turned

theorem slot?_run_of_leaves {slot : String} {s : Session} {i : Instance} {steps : List Step}
    (held : s.slot? slot = some i) (leaves : ∀ step ∈ steps, step.leaves slot = true) :
    (s.run steps).1.slot? slot =
      some (i.setVertical (Step.direction slot i.vertical steps)) := by
  have kept : ∀ step ∈ steps, step.ends slot = false := by
    intro step mem
    have left := leaves step mem
    cases step <;> simp_all [Step.leaves, Step.ends, Step.slot?]
  have calm : s.Undisturbed slot steps := by
    apply undisturbed_of_inPlace
    intro step mem
    have left := leaves step mem
    cases step with
    | overwrite path content beyond => cases left
    | _ => rfl
  rw [slot?_run kept calm, held]
  rfl

end Session

end SizedFace
