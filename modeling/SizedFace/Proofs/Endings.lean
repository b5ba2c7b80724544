import Mathlib.Data.List.Basic
import SizedFace.Platform.NativeFont
import SizedFace.Proofs.Ledger

namespace SizedFace

open Scripted

/-- The end of an instance, or of an attempt to open one. -/
inductive Ending where
  | tornDown (i : Instance)
  /-- A stage objected, where outlines and shapers come from these makers. -/
  | refused (outline shaping : Maker) (stage : Stage)

/-- What is seen of the events of a part: all of them if its maker counts, and nothing otherwise. -/
def Scripted.seen (maker : Maker) (events : List Event) : List Event :=
  if maker.counts then events else []

namespace Ending

/-- The events of an ending. The platform resources go first, then the shaper, then the face; an
attempt gives back what the stages before the objection had acquired. -/
def block : Ending → List Event
  | .tornDown i =>
    (match i.platform with
      | some platform => seen platform.handle.maker [.platformRelease, .platformDrop]
      | none => []) ++
    seen i.shaper.handle.maker [.shaper] ++ seen i.face.handle.maker [.face]
  | .refused outline shaping stage =>
    match stage with
    | .size | .data | .outline => []
    | .grid | .shaping => seen outline [.face]
    | .platform => seen shaping [.shaper] ++ seen outline [.face]

end Ending

namespace Scripted

theorem seen_append (maker : Maker) (a b : List Event) :
    seen maker (a ++ b) = seen maker a ++ seen maker b := by
  unfold seen
  split <;> rfl

theorem events_nil : events [] = [] := rfl

theorem events_cons (entry : Entry) (rest : Journal) :
    events (entry :: rest) = (event? entry).toList ++ events rest := by
  unfold events
  rw [List.filterMap_cons]
  cases event? entry <;> rfl

theorem event?_said (notice : Notice) : event? (.said notice) = none := rfl

theorem event?_released (handle : Handle) :
    (event? (.released handle)).toList =
      seen handle.maker [releaseEvent handle.part] := by
  cases h : handle.maker.counts <;> simp [event?, seen, h]

theorem event?_discarded (handle : Handle) :
    (event? (.discarded handle)).toList = seen handle.maker [.platformDrop] := by
  cases h : handle.maker.counts <;> simp [event?, seen, h]

@[simp] theorem events_told (notices : List Notice) : events (Journal.told notices) = [] := by
  induction notices with
  | nil => rfl
  | cons notice rest ih => exact ih

/-- Without discards, the events are those of the releases. -/
theorem events_of_discards_nil {journal : Journal} (h : journal.discards = []) :
    events journal = journal.releases.flatMap fun handle =>
      seen handle.maker [releaseEvent handle.part] := by
  induction journal with
  | nil => rfl
  | cons entry rest ih =>
    cases entry with
    | said notice => exact ih h
    | acquired handle => exact ih h
    | discarded handle => simp at h
    | released handle =>
      rw [events_cons, event?_released, ih (by simpa using h)]
      rfl

end Scripted

theorem Opened.Completes.events {opened : Opened} {handles : List Handle} {i : Instance}
    (h : opened.Completes [] handles i) : events opened.2 = [] := by
  rw [events_of_discards_nil h.discards, h.releases]
  rfl

/-- A failed opening gives back what the stages before the objection acquired. -/
theorem Opened.Withdraws.events {o : Options} {r : Request} {opened : Opened} {stage : Stage}
    {fault : OpenFault} (h : opened.Withdraws [] ((o.handles r).take stage.held) fault) :
    events opened.2 = (Ending.refused o.outline.maker o.shaping.maker stage).block := by
  rw [events_of_discards_nil h.discards, h.releases]
  cases stage <;>
    simp [Stage.held, Options.handles, Ending.block, releaseEvent]

theorem Instance.Fitted.events {i : Instance} (h : i.Fitted) :
    events i.teardown = (Ending.tornDown i).block := by
  obtain ⟨hf, hs, hp⟩ := h
  have hrest : ∀ journal : Journal, journal =
      .said (.released i.path i.faceIndex) :: Journal.told i.shaper.value.farewell ++
        [.released i.shaper.handle, .released i.face.handle] →
      Scripted.events journal =
        seen i.shaper.handle.maker [.shaper] ++ seen i.face.handle.maker [.face] := by
    rintro _ rfl
    simp [events_cons, events_nil, event?_said, event?_released, hf, hs, releaseEvent]
  cases hi : i.platform with
  | none => simp [teardown, Ending.block, hi, hrest]
  | some platform =>
    have hpart := hp platform hi
    have hboth := seen_append platform.handle.maker [.platformRelease] [.platformDrop]
    simp only [List.cons_append, List.nil_append] at hboth
    simp [teardown, Ending.block, hi, events_cons, event?_said, event?_released,
      event?_discarded, hpart, releaseEvent, hboth, hrest]

/-- The parts of an instance come from the makers that were chosen for it. -/
structure Instance.MadeBy (i : Instance) (c : Choice) : Prop where
  face : i.face.handle.maker = c.outline.maker
  shaper : i.shaper.handle.maker = c.shaping.maker
  platform : i.platform.map (·.handle.maker) = c.platform.map (·.maker)

theorem Instance.MadeBy.of_handles {i : Instance} {c : Choice} {config : LoadConfig} {r : Request}
    (h : i.handles = (c.options config).handles r) : i.MadeBy c := by
  simp only [handles, Options.handles, Options.platformHandles, List.cons.injEq] at h
  obtain ⟨hf, hs, hp⟩ := h
  have hm := congrArg (·.head?.map (·.maker)) hp
  refine ⟨congrArg Handle.maker hf, congrArg Handle.maker hs, ?_⟩
  cases hi : i.platform <;> cases hc : c.platform <;> simp_all [Choice.options]

theorem Instance.MadeBy.congr {i j : Instance} {c : Choice} (h : i.MadeBy c)
    (hface : j.face.handle = i.face.handle) (hshaper : j.shaper = i.shaper)
    (hplatform : j.platform = i.platform) : j.MadeBy c :=
  ⟨hface ▸ h.face, hshaper ▸ h.shaper, hplatform ▸ h.platform⟩

def Step.choice? (slot : String) : Step → Option Choice
  | .openInstance other choice .. => if other = slot then some choice else none
  | _ => none

/-- The choice of the last opening of a slot, and before the first one the choice from before. -/
def Step.chosen? (slot : String) (before : Option Choice) (steps : List Step) : Option Choice :=
  steps.foldl (fun chosen step => (step.choice? slot).or chosen) before

namespace Session

/-- The stage that objects to the next opening of a session. -/
def stopped? (s : Session) (choice : Choice) (path : Path) (faceIndex : Nat) (size : Binary32) :
    Option Stage :=
  (choice.options s.config).stopped? s.tree (s.request path faceIndex size)

def objection? (s : Session) (choice : Choice) (path : Path) (faceIndex : Nat) (size : Binary32)
    (stage : Stage) : Option OpenFault :=
  (choice.options s.config).objection? s.tree (s.request path faceIndex size) stage

/-- The endings that a step brings about, in order. -/
def endings (s : Session) : Step → List Ending
  | .openInstance slot choice path faceIndex size =>
    ((s.slot? slot).map Ending.tornDown).toList ++
      ((s.stopped? choice path faceIndex size).map
        (Ending.refused choice.outline.maker choice.shaping.maker)).toList
  | .destroy slot | .drop slot => ((s.slot? slot).map Ending.tornDown).toList
  | .ask .. | .setVertical .. | .write .. | .overwrite .. | .remove _ | .count => []

def history (s : Session) : List Step → List Ending
  | [] => []
  | step :: rest => s.endings step ++ (s.advance step).1.history rest

def leftovers (s : Session) : List Ending :=
  (((s.slots.map (·.1)).mergeSort fun a b => a ≤ b).filterMap s.slot?).map .tornDown

theorem Kept.events_vacate {s : Session} (h : s.Kept) (slot : String) :
    events (s.vacate slot).journal = events s.journal ++
      ((s.slot? slot).map Ending.tornDown).toList.flatMap Ending.block := by
  unfold Session.vacate
  cases hs : s.slot? slot with
  | none => simp
  | some i => simp [record, clear, forget, (h.fitted i (mem_live_of_slot? hs)).events]

theorem events_attempted (s : Session) (opened : Opened) :
    events (s.attempted opened).journal = events s.journal ++ events opened.2 := by
  simp [attempted]

theorem attempt_cases (s : Session) (choice : Choice) (path : Path) (faceIndex : Nat)
    (size : Binary32) :
    (s.stopped? choice path faceIndex size = none ∧ ∃ i handles,
      (s.attempt choice path faceIndex size).Completes [] handles i) ∨
    ∃ stage fault, s.stopped? choice path faceIndex size = some stage ∧
      s.objection? choice path faceIndex size stage = some fault ∧
      (s.attempt choice path faceIndex size).1 = .error fault ∧
      events (s.attempt choice path faceIndex size).2 =
        (Ending.refused choice.outline.maker choice.shaping.maker stage).block := by
  rcases (choice.options s.config).openInstance_cases s.tree (s.request path faceIndex size) with
    ⟨hn, i, hi⟩ | ⟨stage, fault, hs, ho, hf⟩
  · exact .inl ⟨hn, i, _, hi⟩
  · exact .inr ⟨stage, fault, hs, ho, hf.result, hf.events⟩

theorem events_openVacant (s : Session) (slot : String) (choice : Choice) (path : Path)
    (faceIndex : Nat) (size : Binary32) :
    events (s.openVacant slot choice path faceIndex size).1.journal = events s.journal ++
      ((s.stopped? choice path faceIndex size).map
        (.refused choice.outline.maker choice.shaping.maker)).toList.flatMap Ending.block := by
  have hevents := events_attempted s (s.attempt choice path faceIndex size)
  rcases s.attempt_cases choice path faceIndex size with
    ⟨hn, i, handles, hi⟩ | ⟨stage, fault, hs, _, hr, hb⟩
  · rw [hi.events] at hevents
    rw [openVacant_of_ok slot hi.result, hn]
    simpa using hevents
  · rw [hb] at hevents
    rw [openVacant_of_error slot hr, hs]
    simpa using hevents

theorem stopped?_vacate (s : Session) (slot : String) (choice : Choice) (path : Path)
    (faceIndex : Nat) (size : Binary32) :
    (s.vacate slot).stopped? choice path faceIndex size =
      s.stopped? choice path faceIndex size := by
  unfold Session.vacate
  split <;> rfl

theorem objection?_vacate (s : Session) (slot : String) (choice : Choice) (path : Path)
    (faceIndex : Nat) (size : Binary32) (stage : Stage) :
    (s.vacate slot).objection? choice path faceIndex size stage =
      s.objection? choice path faceIndex size stage := by
  unfold Session.vacate
  split <;> rfl

/-- A step adds the blocks of its own endings, and nothing else. -/
theorem Kept.events_advance {s : Session} (h : s.Kept) (step : Step) :
    events (s.advance step).1.journal =
      events s.journal ++ (s.endings step).flatMap Ending.block := by
  cases step with
  | openInstance slot choice path faceIndex size =>
    simp only [Session.advance, endings, List.flatMap_append]
    rw [events_openVacant, stopped?_vacate, h.events_vacate, List.append_assoc]
  | ask slot query =>
    simp only [Session.advance]
    split <;> simp [endings]
  | setVertical slot vertical =>
    simp only [Session.advance]
    split <;> simp [endings]
  | destroy slot =>
    simp only [Session.advance, endings]
    rw [← h.events_vacate]
    cases hs : s.slot? slot <;> simp [Session.vacate, hs]
  | drop slot =>
    simp only [Session.advance, endings]
    rw [← h.events_vacate]
    cases hs : s.slot? slot <;> simp [Session.vacate, hs]
  | write path content => simp [Session.advance, endings]
  | overwrite path content beyond => simp [Session.advance, endings]
  | remove path =>
    obtain ⟨views, hremoved⟩ := s.exists_advance_remove path
    simp [hremoved, endings]
  | count => simp [Session.advance, endings]

theorem Kept.events_run {s : Session} (h : s.Kept) (steps : List Step) :
    events (s.run steps).1.journal =
      events s.journal ++ (s.history steps).flatMap Ending.block := by
  induction steps generalizing s with
  | nil => simp [Session.run, history]
  | cons step rest ih =>
    simp only [Session.run, history, List.flatMap_append]
    rw [ih (h.advance step), h.events_advance, List.append_assoc]

theorem Kept.events_foldl_vacate {s : Session} (h : s.Kept) {slots : List String}
    (hn : slots.Nodup) :
    events (slots.foldl Session.vacate s).journal =
      events s.journal ++ ((slots.filterMap s.slot?).map .tornDown).flatMap Ending.block := by
  induction slots generalizing s with
  | nil => simp
  | cons slot rest ih =>
    obtain ⟨hnot, hrest⟩ := List.nodup_cons.mp hn
    have hsame : rest.filterMap (s.vacate slot).slot? = rest.filterMap s.slot? := by
      apply List.filterMap_congr
      intro other hm
      exact slot?_vacate_of_ne s fun he => hnot (he ▸ hm)
    rw [List.foldl_cons, ih (h.vacate slot) hrest, hsame, h.events_vacate, List.append_assoc]
    cases hs : s.slot? slot <;> simp [hs]

theorem Kept.events_finish {s : Session} (h : s.Kept) :
    events s.finish.journal = events s.journal ++ s.leftovers.flatMap Ending.block := by
  apply h.events_foldl_vacate
  exact (List.mergeSort_perm _ _).nodup_iff.mpr h.keys

/-- A step fails exactly when a stage objects to its opening, and with that objection. -/
theorem advance_openInstance_failed_iff (s : Session) (slot : String) (choice : Choice)
    (path : Path) (faceIndex : Nat) (size : Binary32) (fault : OpenFault) :
    (s.advance (.openInstance slot choice path faceIndex size)).2 = .failed fault ↔
      ∃ stage, s.stopped? choice path faceIndex size = some stage ∧
        s.objection? choice path faceIndex size stage = some fault := by
  simp only [Session.advance]
  rw [← stopped?_vacate s slot]
  simp only [← objection?_vacate s slot]
  rcases (s.vacate slot).attempt_cases choice path faceIndex size with
    ⟨hn, i, handles, hi⟩ | ⟨stage, cause, hs, ho, hr, _⟩
  · rw [openVacant_of_ok slot hi.result, hn]
    simp
  · rw [openVacant_of_error slot hr, hs]
    simp [ho]

/-- A step opens a slot with its own choice, or leaves the slot what it holds, whatever the
direction and the bytes of it. -/
theorem MadeBy_advance {s : Session} {slot : String} {before : Option Choice}
    (h : ∀ i, s.slot? slot = some i → ∃ c, before = some c ∧ i.MadeBy c) (step : Step)
    {j : Instance} (hj : (s.advance step).1.slot? slot = some j) :
    ∃ c, (step.choice? slot).or before = some c ∧ j.MadeBy c := by
  have kept : s.slot? slot = some j → ∃ c, before = some c ∧ j.MadeBy c := h j
  have vacated (other : String) (hj : (s.vacate other).slot? slot = some j) :
      ∃ c, before = some c ∧ j.MadeBy c := by
    by_cases hs : slot = other
    · rw [hs, slot?_vacate_self] at hj
      cases hj
    · exact kept (by rwa [slot?_vacate_of_ne s hs] at hj)
  cases step with
  | openInstance other choice path faceIndex size =>
    by_cases hs : other = slot
    · subst hs
      refine ⟨choice, by simp [Step.choice?], ?_⟩
      simp only [Session.advance] at hj
      let t := s.vacate other
      let r := t.request path faceIndex size
      rcases (choice.options t.config).openInstance_cases t.tree r with
        ⟨-, i, hi⟩ | ⟨stage, fault, -, -, hf⟩
      · rw [openVacant_of_ok other hi.result, slot?_watch, slot?_put_self] at hj
        cases hj
        exact .of_handles hi.holds
      · rw [openVacant_of_error other hf.result] at hj
        change t.slot? other = some j at hj
        rw [slot?_vacate_self] at hj
        cases hj
    · simp only [Session.advance] at hj
      rw [slot?_openVacant_of_ne _ _ _ _ _ (Ne.symm hs)] at hj
      simpa [Step.choice?, hs] using vacated other hj
  | setVertical other vertical =>
    simp only [Session.advance] at hj
    split at hj
    · rename_i i hi
      by_cases hs : slot = other
      · subst hs
        rw [slot?_put_self] at hj
        cases hj
        obtain ⟨c, hc, hmade⟩ := h i hi
        exact ⟨c, hc, hmade.congr rfl rfl rfl⟩
      · rw [slot?_put_of_ne s _ hs] at hj
        exact kept hj
    · exact kept hj
  | destroy other =>
    simp only [Session.advance] at hj
    split at hj
    · exact vacated other hj
    · exact kept hj
  | drop other =>
    simp only [Session.advance] at hj
    split at hj
    · exact vacated other hj
    · exact kept hj
  | overwrite path content beyond =>
    change (s.overlay _ _).slot? slot = some j at hj
    rw [slot?_overlay] at hj
    obtain ⟨i, hi, rfl⟩ := Option.map_eq_some_iff.mp hj
    obtain ⟨c, hc, hmade⟩ := h i hi
    obtain ⟨data, companion, face, hshown⟩ := s.exists_showing _ _ slot i
    rw [hshown]
    exact ⟨c, hc, hmade.congr rfl rfl rfl⟩
  | remove path =>
    obtain ⟨views, hremoved⟩ := s.exists_advance_remove path
    rw [hremoved] at hj
    exact kept hj
  | ask other query =>
    simp only [Session.advance] at hj
    split at hj <;> exact kept hj
  | write path content => exact kept hj
  | count => exact kept hj

theorem MadeBy_run {s : Session} {slot : String} {before : Option Choice}
    (h : ∀ i, s.slot? slot = some i → ∃ c, before = some c ∧ i.MadeBy c) (steps : List Step)
    {i : Instance} (hi : (s.run steps).1.slot? slot = some i) :
    ∃ c, Step.chosen? slot before steps = some c ∧ i.MadeBy c := by
  induction steps generalizing s before with
  | nil => exact h i hi
  | cons step rest ih => exact ih (fun _ hj => MadeBy_advance h step hj) hi

/-- Scripted backends see the blocks of all endings of a session one after another, and nothing
else. A destroyed instance and a dropped one end alike, and an attempt is refused where the first
stage objects. The backends of files, of the engine and of the system are not seen, the scripted
ones are; and the parts of an instance come from what was chosen for it when its slot was opened
last. -/
theorem events_blocks (tree : FileTree) (environment : Environment) (steps : List Step) :
    let start := Session.start tree environment
    let s := (start.run steps).1
    (counters s.journal).events = (start.history steps).flatMap Ending.block ∧
    (counters s.finish.journal).events =
      (start.history steps ++ s.leftovers).flatMap Ending.block ∧
    (∀ slot, (s.advance (.destroy slot)).1 = (s.advance (.drop slot)).1 ∧
      s.endings (.destroy slot) = s.endings (.drop slot)) ∧
    (∀ slot choice path faceIndex size fault,
      (s.advance (.openInstance slot choice path faceIndex size)).2 = .failed fault ↔
        ∃ stage, s.stopped? choice path faceIndex size = some stage ∧
          s.objection? choice path faceIndex size stage = some fault) ∧
    (∀ events, seen Sfnt.outlines.maker events = [] ∧
      seen Shaping.engine.maker events = [] ∧
      seen Shaping.unshaped.maker events = [] ∧
      ∀ system, seen (Platform.native system).maker events = []) ∧
    (∀ events, (∀ script : Script, seen script.outlines.maker events = events) ∧
      seen Scripted.shaping.maker events = events ∧
      seen Scripted.refusingShaping.maker events = events ∧
      (∀ variant, seen (Scripted.platform variant).maker events = events) ∧
      seen Scripted.refusingPlatform.maker events = events) ∧
    ∀ slot i, s.slot? slot = some i →
      ∃ choice, Step.chosen? slot none steps = some choice ∧ i.MadeBy choice := by
  have hstart := Kept.start tree environment
  have hkept := hstart.run steps
  have hrun := hstart.events_run steps
  have hempty : events (Session.start tree environment).journal = [] := rfl
  rw [hempty, List.nil_append] at hrun
  refine ⟨hrun, ?_, ?_, ?_, ?_, ?_, ?_⟩
  · have hfinish := hkept.events_finish
    rw [hrun, ← List.flatMap_append] at hfinish
    exact hfinish
  · intro slot
    refine ⟨?_, rfl⟩
    simp only [Session.advance]
    split <;> rfl
  · exact fun slot choice path faceIndex size fault =>
      advance_openInstance_failed_iff _ slot choice path faceIndex size fault
  · exact fun events => ⟨rfl, rfl, rfl, fun _ => rfl⟩
  · exact fun events => ⟨fun _ => rfl, rfl, rfl, fun _ => rfl, rfl⟩
  · intro slot i hi
    exact MadeBy_run (by simp [Session.start, slot?]) steps hi

end Session
end SizedFace
