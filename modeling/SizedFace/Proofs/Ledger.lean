import SizedFace.Proofs.Opening
import SizedFace.Session.Lemmas

namespace SizedFace

/-- How many handles are of a part, and from a backend of a kind. -/
def tally (kind : Maker → Bool) (part : Part) (handles : List Handle) : Nat :=
  handles.countP fun handle => handle.part = part && kind handle.maker

theorem tally_nil (kind : Maker → Bool) (part : Part) : tally kind part [] = 0 := rfl

theorem tally_cons (kind : Maker → Bool) (part : Part) (handle : Handle) (rest : List Handle) :
    tally kind part (handle :: rest) =
      (decide (handle.part = part) && kind handle.maker).toNat + tally kind part rest := by
  cases hc : decide (handle.part = part) && kind handle.maker with
  | false => simp [tally, List.countP_cons_of_neg, hc]
  | true => simp [tally, List.countP_cons_of_pos, hc, Nat.add_comm]

theorem tally_append (kind : Maker → Bool) (part : Part) (a b : List Handle) :
    tally kind part (a ++ b) = tally kind part a + tally kind part b :=
  List.countP_append

theorem tally_perm {kind : Maker → Bool} {part : Part} {a b : List Handle} (h : a.Perm b) :
    tally kind part a = tally kind part b :=
  h.countP_eq _

/-- Of one part alone, the others do not count. -/
theorem tally_filter (kind : Maker → Bool) (part : Part) (handles : List Handle) :
    tally kind part (handles.filter (·.part = part)) = tally kind part handles := by
  unfold tally
  rw [List.countP_filter]
  congr 1
  funext handle
  cases decide (handle.part = part) <;> simp

namespace Journal

/-- How many more handles were acquired than released. -/
def unreleased (journal : Journal) (kind : Maker → Bool) (part : Part) : Int :=
  tally kind part journal.acquisitions - tally kind part journal.releases

def undiscarded (journal : Journal) (kind : Maker → Bool) : Int :=
  tally kind .platform journal.acquisitions - tally kind .platform journal.discards

end Journal

namespace Instance

/-- Whether the instance has a part that a backend of a kind made. -/
def holds (kind : Maker → Bool) (part : Part) (i : Instance) : Bool :=
  match part with
  | .face => kind i.face.handle.maker
  | .shaper => kind i.shaper.handle.maker
  | .platform => i.platform.any fun platform => kind platform.handle.maker

/-- Each part is held by a handle of that part. -/
structure Fitted (i : Instance) : Prop where
  face : i.face.handle.part = .face
  shaper : i.shaper.handle.part = .shaper
  platform : ∀ platform, i.platform = some platform → platform.handle.part = .platform

theorem Fitted.of_handles {i : Instance} {o : Options} {r : Request}
    (h : i.handles = o.handles r) : i.Fitted := by
  simp only [handles, Options.handles, Options.platformHandles, List.cons.injEq] at h
  obtain ⟨hf, hs, hp⟩ := h
  refine ⟨by rw [hf]; rfl, by rw [hs]; rfl, ?_⟩
  intro platform hi
  cases ho : o.platform with
  | none => simp [hi, ho] at hp
  | some backend =>
    simp only [hi, ho, Option.map_some, Option.toList_some, List.cons.injEq, and_true] at hp
    rw [hp]
    rfl

theorem tally_handles {i : Instance} (h : i.Fitted) (kind : Maker → Bool) (part : Part) :
    tally kind part i.handles = (i.holds kind part).toNat := by
  obtain ⟨hf, hs, hp⟩ := h
  cases hi : i.platform with
  | none => cases part <;> simp [handles, tally_cons, tally_nil, holds, hi, hf, hs]
  | some platform =>
    have hpart := hp platform hi
    cases part <;> simp [handles, tally_cons, tally_nil, holds, hi, hf, hs, hpart]

theorem handles_showing (i : Instance) (data : FontData) (companion : Option FontData)
    (face : OutlineFace) : (i.showing data companion face).handles = i.handles := rfl

/-- A torn down instance gives back all it held, the latest first. -/
theorem releases_teardown (i : Instance) : i.teardown.releases = i.handles.reverse := by
  cases hi : i.platform <;> simp [teardown, handles, hi]

@[simp] theorem acquisitions_teardown (i : Instance) : i.teardown.acquisitions = [] := by
  cases hi : i.platform <;> simp [teardown, hi]

theorem discards_teardown {i : Instance} (h : i.Fitted) :
    i.teardown.discards = i.teardown.releases.filter (·.part = .platform) := by
  obtain ⟨hf, hs, hp⟩ := h
  cases hi : i.platform with
  | none => simp [teardown, hi, hf, hs]
  | some platform => simp [teardown, hi, hf, hs, hp platform hi]

end Instance

namespace Options

theorem opening_of_mem_handles {o : Options} {r : Request} {handle : Handle}
    (h : handle ∈ o.handles r) : handle.opening = r.opening := by
  rcases List.mem_cons.mp h with rfl | h
  · rfl
  rcases List.mem_cons.mp h with rfl | h
  · rfl
  obtain ⟨backend, _, rfl⟩ := Option.map_eq_some_iff.mp (Option.mem_toList.mp h)
  rfl

theorem nodup_handles (o : Options) (r : Request) : (o.handles r).Nodup := by
  cases hp : o.platform <;> simp [handles, platformHandles, hp, Request.handle]

/-- The platform is asked last, so an opening that fails has attached nothing. -/
theorem part_of_mem_take_held {o : Options} {r : Request} {stage : Stage} {handle : Handle}
    (h : handle ∈ (o.handles r).take stage.held) : handle.part ≠ .platform := by
  have h2 : handle ∈ (o.handles r).take 2 :=
    (List.take_subset_take_left _ (by cases stage <;> decide)) h
  simp only [handles, List.take_succ_cons, List.take_zero, List.mem_cons, List.not_mem_nil,
    or_false] at h2
  rcases h2 with rfl | rfl <;> simp

end Options

namespace Session

def live (s : Session) : List Instance := s.slots.map (·.2)

def handles (s : Session) : List Handle := s.live.flatMap Instance.handles

/-- What every step keeps. Each handle has a number of its own, and those that were not given back
are those of the live instances. -/
structure Kept (s : Session) : Prop where
  keys : (s.slots.map (·.1)).Nodup
  fitted : ∀ i ∈ s.live, i.Fitted
  numbered : ∀ handle ∈ s.journal.acquisitions, handle.opening < s.openings
  once : s.journal.acquisitions.Nodup
  owed : s.journal.acquisitions.Perm (s.journal.releases ++ s.handles)
  discarded : s.journal.discards = s.journal.releases.filter (·.part = .platform)

theorem Kept.start (tree : FileTree) (environment : Environment) :
    (Session.start tree environment).Kept := by
  constructor <;> simp [Session.start, live, handles]

/-- A slot that holds nothing has no entry. -/
theorem slots_clear_of_vacant {s : Session} {slot : String} (h : s.slot? slot = none) :
    (s.clear slot).slots = s.slots := by
  apply List.filter_eq_self.mpr
  intro entry hm
  have hne : entry.1 ≠ slot := by
    intro he
    have := List.lookup_eq_none_iff.mp h entry hm
    simp [he] at this
  simpa using hne

theorem live_put_of_vacant {s : Session} {slot : String} (h : s.slot? slot = none) (i : Instance) :
    (s.put slot i).live = i :: s.live := by
  simp only [live, put, slots_clear_of_vacant h, List.map_cons]

theorem slots_vacate (s : Session) (slot : String) :
    (s.vacate slot).slots = s.slots.filter fun entry => entry.1 ≠ slot := by
  unfold vacate
  cases h : s.slot? slot with
  | none => exact (slots_clear_of_vacant h).symm
  | some i => rfl

/-- With distinct keys, the entry of a slot can be put in front. -/
theorem slots_perm {s : Session} (hk : (s.slots.map (·.1)).Nodup) {slot : String} {i : Instance}
    (h : s.slot? slot = some i) : s.slots.Perm ((slot, i) :: (s.clear slot).slots) := by
  obtain ⟨before, after, he, _⟩ := List.lookup_eq_some_iff.mp h
  have hne : ∀ entry ∈ before ++ after, entry.1 ≠ slot := by
    intro entry hm hs
    rw [he, List.map_append, List.map_cons] at hk
    have hfirst := (List.nodup_cons.mp (List.perm_middle.nodup_iff.mp hk)).1
    exact hfirst (by rw [← List.map_append]; exact List.mem_map.mpr ⟨entry, hm, hs⟩)
  have hclear : (s.clear slot).slots = before ++ after := by
    have hself : ((slot, i).1 ≠ slot) = False := by simp
    change s.slots.filter (fun entry => entry.1 ≠ slot) = before ++ after
    rw [he, List.filter_append, List.filter_cons_of_neg (by simp), ← List.filter_append]
    exact List.filter_eq_self.mpr fun entry hm => by simpa using hne entry hm
  rw [hclear, he]
  exact List.perm_middle

theorem live_perm {s : Session} (hk : (s.slots.map (·.1)).Nodup) {slot : String} {i : Instance}
    (h : s.slot? slot = some i) : s.live.Perm (i :: (s.clear slot).live) :=
  (slots_perm hk h).map Prod.snd

theorem handles_perm {s : Session} (hk : (s.slots.map (·.1)).Nodup) {slot : String} {i : Instance}
    (h : s.slot? slot = some i) : s.handles.Perm (i.handles ++ (s.clear slot).handles) := by
  have := (live_perm hk h).flatMap_right Instance.handles
  simpa only [handles, List.flatMap_cons] using this

theorem mem_live_of_slot? {s : Session} {slot : String} {i : Instance}
    (h : s.slot? slot = some i) : i ∈ s.live := by
  obtain ⟨before, after, he, _⟩ := List.lookup_eq_some_iff.mp h
  exact List.mem_map.mpr ⟨(slot, i), by simp [he], rfl⟩

theorem mem_live_of_clear {s : Session} {slot : String} {i : Instance}
    (h : i ∈ (s.clear slot).live) : i ∈ s.live := by
  obtain ⟨entry, hm, rfl⟩ := List.mem_map.mp h
  exact List.mem_map.mpr ⟨entry, (List.mem_filter.mp hm).1, rfl⟩

theorem keys_clear {s : Session} (hk : (s.slots.map (·.1)).Nodup) (slot : String) :
    ((s.clear slot).slots.map (·.1)).Nodup :=
  hk.sublist (List.filter_sublist.map _)

theorem keys_put {s : Session} (hk : (s.slots.map (·.1)).Nodup) (slot : String) (i : Instance) :
    ((s.put slot i).slots.map (·.1)).Nodup := by
  refine List.nodup_cons.mpr ⟨?_, keys_clear hk slot⟩
  intro hm
  obtain ⟨entry, he, hs⟩ := List.mem_map.mp hm
  have hne : entry.1 ≠ slot := by simpa using (List.mem_filter.mp he).2
  exact hne hs

/-- The ledger knows neither the files nor what of them is mapped. -/
theorem Kept.outside {s : Session} (h : s.Kept) (tree : FileTree) (views : List (String × View)) :
    { s with tree, views }.Kept :=
  ⟨h.keys, h.fitted, h.numbered, h.once, h.owed, h.discarded⟩

theorem slots_overlay (s : Session) (place : Place) (bytes : Bytes) :
    (s.overlay place bytes).slots.map (·.1) = s.slots.map (·.1) := by
  simp [overlay]

theorem mem_live_of_overlay {s : Session} {place : Place} {bytes : Bytes} {i : Instance}
    (h : i ∈ (s.overlay place bytes).live) :
    ∃ j ∈ s.live, ∃ data companion face, i = j.showing data companion face := by
  obtain ⟨_, hm, rfl⟩ := List.mem_map.mp h
  obtain ⟨entry, hentry, rfl⟩ := List.mem_map.mp hm
  exact ⟨entry.2, List.mem_map.mpr ⟨entry, hentry, rfl⟩,
    s.exists_showing place bytes entry.1 entry.2⟩

/-- What holds of an instance over whatever bytes, holds of all instances after an in-place change
as it did before. -/
theorem map_live_overlay {α : Type} (s : Session) (place : Place) (bytes : Bytes)
    {f : Instance → α} (hf : ∀ i data companion face, f (i.showing data companion face) = f i) :
    (s.overlay place bytes).live.map f = s.live.map f := by
  simp only [live, overlay, List.map_map]
  apply List.map_congr_left
  intro entry _
  obtain ⟨data, companion, face, hshown⟩ := s.exists_showing place bytes entry.1 entry.2
  simp only [Function.comp_apply, hshown, hf]

/-- An in-place change leaves all handles where they are. -/
theorem Kept.overlay {s : Session} (h : s.Kept) (place : Place) (bytes : Bytes) :
    (s.overlay place bytes).Kept := by
  have hhandles : (s.overlay place bytes).handles = s.handles := by
    simp only [handles, List.flatMap_def, s.map_live_overlay place bytes Instance.handles_showing]
  refine ⟨?_, ?_, h.numbered, h.once, ?_, h.discarded⟩
  · rw [slots_overlay]
    exact h.keys
  · intro i hi
    obtain ⟨j, hj, data, companion, face, rfl⟩ := mem_live_of_overlay hi
    obtain ⟨hf, hs, hp⟩ := h.fitted j hj
    exact ⟨hf, hs, hp⟩
  · rw [hhandles]
    exact h.owed

/-- A tear-down moves the handles of its instance from those owed to those released. -/
theorem Kept.vacate {s : Session} (h : s.Kept) (slot : String) : (s.vacate slot).Kept := by
  unfold Session.vacate
  cases hs : s.slot? slot with
  | none => exact h
  | some i =>
    have hfit := h.fitted i (mem_live_of_slot? hs)
    refine ⟨keys_clear h.keys slot, fun j hj => h.fitted j (mem_live_of_clear hj), ?_, ?_, ?_, ?_⟩
    · simpa [record, clear, forget] using h.numbered
    · simpa [record, clear, forget] using h.once
    · have howed : s.journal.acquisitions.Perm
          (s.journal.releases ++ (i.handles ++ (s.clear slot).handles)) :=
        h.owed.trans ((handles_perm h.keys hs).append_left _)
      have hback : (i.handles ++ (s.clear slot).handles).Perm
          (i.handles.reverse ++ (s.clear slot).handles) :=
        (List.reverse_perm _).symm.append_right _
      simp only [record, forget, Journal.acquisitions_append, Instance.acquisitions_teardown,
        List.append_nil, Journal.releases_append, Instance.releases_teardown, List.append_assoc]
      exact howed.trans (hback.append_left _)
    · simp only [record, clear, forget, Journal.discards_append, Journal.releases_append,
        List.filter_append, h.discarded, Instance.discards_teardown hfit]

def request (s : Session) (path : Path) (faceIndex : Nat) (size : Binary32) : Request :=
  ⟨path, faceIndex, size, s.openings⟩

/-- The opening that a session tries for a step. -/
def attempt (s : Session) (choice : Choice) (path : Path) (faceIndex : Nat) (size : Binary32) :
    Opened :=
  (choice.options s.config).openInstance s.tree (s.request path faceIndex size)

/-- The session after an attempt, before an instance is put into a slot. -/
def attempted (s : Session) (opened : Opened) : Session :=
  { s with
    journal := s.journal ++ (Journal.told s.unheard ++ opened.2)
    unheard := []
    openings := s.openings + 1 }

theorem openVacant_of_ok {s : Session} {choice : Choice} {path : Path} {faceIndex : Nat}
    {size : Binary32} {i : Instance} (slot : String)
    (h : (s.attempt choice path faceIndex size).1 = .ok i) :
    s.openVacant slot choice path faceIndex size =
      (((s.attempted (s.attempt choice path faceIndex size)).put slot i).watch slot
          (choice.view s.tree path i),
        .answered (i.answer .summary)) := by
  unfold attempt request at h
  simp only [openVacant, h]
  rfl

theorem openVacant_of_error {s : Session} {choice : Choice} {path : Path} {faceIndex : Nat}
    {size : Binary32} {fault : OpenFault} (slot : String)
    (h : (s.attempt choice path faceIndex size).1 = .error fault) :
    s.openVacant slot choice path faceIndex size =
      (s.attempted (s.attempt choice path faceIndex size), .failed fault) := by
  unfold attempt request at h
  simp only [openVacant, h]
  rfl

/-- Handles of a new opening are no old ones. -/
theorem Kept.acquire {s : Session} (h : s.Kept) {new : List Handle} (hn : new.Nodup)
    (ho : ∀ handle ∈ new, handle.opening = s.openings) :
    (∀ handle ∈ s.journal.acquisitions ++ new, handle.opening < s.openings + 1) ∧
      (s.journal.acquisitions ++ new).Nodup := by
  refine ⟨?_, List.nodup_append.mpr ⟨h.once, hn, ?_⟩⟩
  · intro handle hm
    rcases List.mem_append.mp hm with hm | hm
    · have := h.numbered handle hm
      omega
    · rw [ho handle hm]
      exact Nat.lt_succ_self _
  · rintro handle hm _ hin rfl
    have := h.numbered handle hm
    rw [ho handle hin] at this
    exact Nat.lt_irrefl _ this

/-- A failed attempt has released what it acquired, and nothing of it was a platform. -/
theorem Kept.withdraw {s : Session} (h : s.Kept) {opened : Opened} {new : List Handle}
    {fault : OpenFault} (hf : opened.Withdraws [] new fault) (hn : new.Nodup)
    (ho : ∀ handle ∈ new, handle.opening = s.openings)
    (hp : ∀ handle ∈ new, handle.part ≠ .platform) : (s.attempted opened).Kept := by
  obtain ⟨hnumbered, honce⟩ := h.acquire hn ho
  have hback : opened.2.releases.Perm new := by
    rw [hf.releases]
    exact List.reverse_perm new
  refine ⟨h.keys, h.fitted, ?_, ?_, ?_, ?_⟩
  · simpa [attempted, hf.acquires] using hnumbered
  · simpa [attempted, hf.acquires] using honce
  · have hnow : (s.journal.acquisitions ++ new).Perm
        (s.journal.releases ++ s.handles ++ opened.2.releases) := h.owed.append hback.symm
    have hswap : (s.handles ++ opened.2.releases).Perm (opened.2.releases ++ s.handles) :=
      List.perm_append_comm
    simp only [attempted, Journal.acquisitions_append, Journal.acquisitions_told, List.nil_append,
      hf.acquires, Journal.releases_append, Journal.releases_told, List.append_assoc] at hnow ⊢
    exact hnow.trans (hswap.append_left _)
  · have hnone : opened.2.releases.filter (·.part = .platform) = [] := by
      apply List.filter_eq_nil_iff.mpr
      intro handle hm
      simpa using hp handle (hback.mem_iff.mp hm)
    simp [attempted, hf.discards, h.discarded, hnone]

/-- A completed attempt owes what it acquired, by the instance that holds it. -/
theorem Kept.complete {s : Session} (h : s.Kept) {slot : String} (hv : s.slot? slot = none)
    {opened : Opened} {new : List Handle} {i : Instance} (hi : opened.Completes [] new i)
    (hfit : i.Fitted) (hn : new.Nodup) (ho : ∀ handle ∈ new, handle.opening = s.openings) :
    ((s.attempted opened).put slot i).Kept := by
  obtain ⟨hnumbered, honce⟩ := h.acquire hn ho
  have hlive : ((s.attempted opened).put slot i).live = i :: s.live := live_put_of_vacant hv i
  refine ⟨keys_put h.keys slot i, ?_, ?_, ?_, ?_, ?_⟩
  · intro j hj
    rw [hlive] at hj
    rcases List.mem_cons.mp hj with rfl | hj
    · exact hfit
    · exact h.fitted j hj
  · simpa [put, attempted, hi.acquires] using hnumbered
  · simpa [put, attempted, hi.acquires] using honce
  · have hnow : (s.journal.acquisitions ++ new).Perm (s.journal.releases ++ s.handles ++ new) :=
      h.owed.append_right new
    have hswap : (s.handles ++ new).Perm (new ++ s.handles) := List.perm_append_comm
    have hmine : ((s.attempted opened).put slot i).handles = new ++ s.handles := by
      rw [handles, hlive, List.flatMap_cons, hi.holds, List.nil_append]
      rfl
    rw [hmine]
    simp only [put, attempted, Journal.acquisitions_append, Journal.acquisitions_told,
      List.nil_append, hi.acquires, Journal.releases_append, Journal.releases_told, hi.releases,
      List.append_nil, List.append_assoc] at hnow ⊢
    exact hnow.trans (hswap.append_left _)
  · simp [put, attempted, hi.discards, hi.releases, h.discarded]

theorem Kept.openVacant {s : Session} (h : s.Kept) {slot : String} (hv : s.slot? slot = none)
    (choice : Choice) (path : Path) (faceIndex : Nat) (size : Binary32) :
    (s.openVacant slot choice path faceIndex size).1.Kept := by
  let o := choice.options s.config
  let r := s.request path faceIndex size
  rcases o.openInstance_cases s.tree r with ⟨_, i, hi⟩ | ⟨stage, fault, _, _, hf⟩
  · rw [openVacant_of_ok slot hi.result]
    exact (h.complete hv hi (.of_handles hi.holds) (o.nodup_handles r)
      fun handle hm => Options.opening_of_mem_handles hm).outside _ _
  · rw [openVacant_of_error slot hf.result]
    exact h.withdraw hf ((o.nodup_handles r).sublist (List.take_sublist _ _))
      (fun handle hm => Options.opening_of_mem_handles (List.mem_of_mem_take hm))
      fun handle hm => Options.part_of_mem_take_held hm

theorem Kept.turn {s : Session} (h : s.Kept) {slot : String} {i : Instance}
    (hs : s.slot? slot = some i) (vertical : Bool) :
    (s.put slot (i.setVertical vertical)).Kept := by
  refine ⟨keys_put h.keys slot _, ?_, h.numbered, h.once, ?_, h.discarded⟩
  · intro j hj
    rcases List.mem_cons.mp hj with rfl | hj
    · obtain ⟨hf, hp, hr⟩ := h.fitted i (mem_live_of_slot? hs)
      exact ⟨hf, hp, hr⟩
    · exact h.fitted j (mem_live_of_clear hj)
  · exact h.owed.trans ((handles_perm h.keys hs).append_left _)

theorem slot?_vacate_self (s : Session) (slot : String) : (s.vacate slot).slot? slot = none := by
  unfold slot?
  rw [slots_vacate]
  apply List.lookup_eq_none_iff.mpr
  intro entry hm
  have hne : entry.1 ≠ slot := by simpa using (List.mem_filter.mp hm).2
  simpa using hne.symm

theorem Kept.advance {s : Session} (h : s.Kept) (step : Step) : (s.advance step).1.Kept := by
  cases step with
  | openInstance slot choice path faceIndex size =>
    exact (h.vacate slot).openVacant (s.slot?_vacate_self slot) choice path faceIndex size
  | ask slot query =>
    simp only [Session.advance]
    split <;> exact h
  | setVertical slot vertical =>
    simp only [Session.advance]
    split
    · exact h.turn (by assumption) vertical
    · exact h
  | destroy slot =>
    simp only [Session.advance]
    split
    · exact h.vacate slot
    · exact h
  | drop slot =>
    simp only [Session.advance]
    split
    · exact h.vacate slot
    · exact h
  | write path content => exact h.outside _ _
  | overwrite path content beyond => exact (h.overlay _ _).outside _ _
  | remove path =>
    obtain ⟨views, hremoved⟩ := s.exists_advance_remove path
    rw [hremoved]
    exact h.outside _ _
  | count => exact h

theorem Kept.run {s : Session} (h : s.Kept) (steps : List Step) : (s.run steps).1.Kept := by
  induction steps generalizing s with
  | nil => exact h
  | cons step rest ih => exact ih (h.advance step)

theorem Kept.finish {s : Session} (h : s.Kept) : s.finish.Kept := by
  unfold Session.finish
  generalize (s.slots.map (·.1)).mergeSort (fun a b => decide (a ≤ b)) = slots
  induction slots generalizing s with
  | nil => exact h
  | cons slot rest ih => exact ih (h.vacate slot)

theorem openVacant_of_failed {s : Session} {slot : String} {choice : Choice} {path : Path}
    {faceIndex : Nat} {size : Binary32} {fault : OpenFault}
    (h : (s.openVacant slot choice path faceIndex size).2 = .failed fault) :
    (s.openVacant slot choice path faceIndex size).1 =
      s.attempted (s.attempt choice path faceIndex size) := by
  cases hr : (s.attempt choice path faceIndex size).1 with
  | error fault => rw [openVacant_of_error slot hr]
  | ok i =>
    rw [openVacant_of_ok slot hr] at h
    cases h

theorem slots_foldl_vacate (slots : List String) (s : Session) :
    (slots.foldl vacate s).slots = s.slots.filter fun entry => entry.1 ∉ slots := by
  induction slots generalizing s with
  | nil => exact (List.filter_eq_self.mpr fun _ _ => by simp).symm
  | cons slot rest ih =>
    rw [List.foldl_cons, ih, slots_vacate, List.filter_filter]
    congr 1
    funext entry
    simp [Bool.and_comm]

theorem live_finish (s : Session) : s.finish.live = [] := by
  unfold live finish
  rw [slots_foldl_vacate, List.map_eq_nil_iff, List.filter_eq_nil_iff]
  intro entry hm
  simpa using ⟨entry.2, hm⟩

/-- The counts of a session agree with what is live. -/
structure Balanced (s : Session) : Prop where
  /-- What is acquired and not released is held, part by part and backend by backend. -/
  unreleased : ∀ kind part,
    s.journal.unreleased kind part = s.live.countP (Instance.holds kind part)
  undiscarded : ∀ kind, s.journal.undiscarded kind = s.live.countP (Instance.holds kind .platform)
  released_once : s.journal.releases.Nodup
  discarded_once : s.journal.discards.Nodup
  /-- When nothing is live, as much was released as was acquired. -/
  settled : s.live = [] →
    (∀ kind part, tally kind part s.journal.releases = tally kind part s.journal.acquisitions) ∧
    ∀ kind, tally kind .platform s.journal.discards = tally kind .platform s.journal.acquisitions

theorem tally_handles {s : Session} (h : ∀ i ∈ s.live, i.Fitted) (kind : Maker → Bool)
    (part : Part) : tally kind part s.handles = s.live.countP (Instance.holds kind part) := by
  unfold handles
  generalize s.live = live at h
  induction live with
  | nil => rfl
  | cons i rest ih =>
    rw [List.flatMap_cons, tally_append, Instance.tally_handles (h i List.mem_cons_self),
      ih fun j hj => h j (List.mem_cons_of_mem _ hj)]
    cases hk : i.holds kind part <;> simp [hk, Nat.add_comm]

theorem Kept.balanced {s : Session} (h : s.Kept) : s.Balanced := by
  have hcount : ∀ kind part, tally kind part s.journal.acquisitions =
      tally kind part s.journal.releases + s.live.countP (Instance.holds kind part) := by
    intro kind part
    rw [tally_perm h.owed, tally_append, tally_handles h.fitted]
  have hdiscards : ∀ kind,
      tally kind .platform s.journal.discards = tally kind .platform s.journal.releases := by
    intro kind
    rw [h.discarded, tally_filter]
  have honce : s.journal.releases.Nodup :=
    (List.nodup_append.mp (h.owed.nodup_iff.mp h.once)).1
  refine ⟨?_, ?_, honce, ?_, ?_⟩
  · intro kind part
    rw [Journal.unreleased, hcount]
    omega
  · intro kind
    rw [Journal.undiscarded, hcount, hdiscards]
    omega
  · rw [h.discarded]
    exact honce.sublist List.filter_sublist
  · intro hlive
    have hall : ∀ kind part,
        tally kind part s.journal.releases = tally kind part s.journal.acquisitions := by
      intro kind part
      rw [hcount, hlive, List.countP_nil, Nat.add_zero]
    exact ⟨hall, fun kind => (hdiscards kind).trans (hall kind .platform)⟩

end Session
end SizedFace
