import SizedFace.Lookup
import SizedFace.Session.Basic

namespace SizedFace

namespace View

variable (v : View) (place : Place)

theorem maps_detach (other : Place) :
    (v.detach place).maps other = (v.maps other && other ≠ place) := by
  have detached (file : Option Place) : decide (file.filter (· ≠ place) = some other) =
      (decide (file = some other) && decide (other ≠ place)) := by
    rw [← Bool.decide_and, decide_eq_decide, Option.filter_eq_some_iff, decide_eq_true_eq]
  unfold maps detach
  rw [detached, detached, ← Bool.and_or_distrib_right]

end View

namespace Instance

theorem reread_of_not_maps {v : View} {place : Place} (apart : v.maps place = false)
    (i : Instance) (bytes : Bytes) : i.reread v place bytes = i := by
  simp [reread, apart]

theorem data_reread (i : Instance) (v : View) (place : Place) (bytes : Bytes) :
    (i.reread v place bytes).data =
      if v.data = some place then i.data.shown bytes else i.data := by
  cases reached : v.maps place with
  | true =>
    simp only [reread, reached, if_true]
    rfl
  | false =>
    have apart : v.data ≠ some place := by
      intro same
      simp [View.maps, same] at reached
    rw [reread_of_not_maps reached, if_neg apart]

theorem companion_reread (i : Instance) (v : View) (place : Place) (bytes : Bytes) :
    (i.reread v place bytes).companion =
      if v.companion = some place then i.companion.map (·.shown bytes) else i.companion := by
  cases reached : v.maps place with
  | true =>
    simp only [reread, reached, if_true]
    rfl
  | false =>
    have apart : v.companion ≠ some place := by
      intro same
      simp [View.maps, same] at reached
    rw [reread_of_not_maps reached, if_neg apart]

/-- An instance that answers from its bytes goes on to do so. -/
theorem face_reread {i : Instance} {v : View} (own : i.face.value = v.reread i.data i.companion)
    (place : Place) (bytes : Bytes) :
    (i.reread v place bytes).face.value =
      v.reread (i.reread v place bytes).data (i.reread v place bytes).companion := by
  cases reached : v.maps place with
  | true =>
    simp only [reread, reached, if_true]
    rfl
  | false =>
    rw [reread_of_not_maps reached]
    exact own

/-- An in-place change leaves the parts and their handles, and all that was taken from the metrics.
-/
theorem exists_showing (i : Instance) (v : View) (place : Place) (bytes : Bytes) :
    ∃ data companion face, i.reread v place bytes = i.showing data companion face := by
  unfold reread
  by_cases reached : v.maps place = true
  · exact ⟨_, _, _, if_pos reached⟩
  · exact ⟨i.data, i.companion, i.face.value, if_neg reached⟩

end Instance

namespace Session

/-- Whether a slot maps the file at a place. -/
def maps (s : Session) (slot : String) (place : Place) : Bool := (s.view? slot).any (·.maps place)

/-- Whether a step changes, in place, a file that a slot maps. -/
def disturbs (s : Session) (slot : String) : Step → Bool
  | .overwrite path .. => s.maps slot (FileTree.placeOf path)
  | _ => false

variable (s : Session)

@[simp] theorem journal_put (slot : String) (i : Instance) : (s.put slot i).journal = s.journal :=
  rfl

@[simp] theorem journal_watch (slot : String) (v : View) : (s.watch slot v).journal = s.journal :=
  rfl

@[simp] theorem journal_detach (place : Place) : (s.detach place).journal = s.journal := rfl

@[simp] theorem journal_overlay (place : Place) (bytes : Bytes) :
    (s.overlay place bytes).journal = s.journal := rfl

@[simp] theorem slot?_watch (slot : String) (v : View) : (s.watch slot v).slot? = s.slot? := rfl

theorem view?_detach (place : Place) (slot : String) :
    (s.detach place).view? slot = (s.view? slot).map (·.detach place) :=
  lookup_map s.views (fun _ v => v.detach place) slot

theorem view?_forget_of_ne {slot other : String} (h : other ≠ slot) :
    (s.forget slot).view? other = s.view? other :=
  lookup_filter_ne s.views h

theorem view?_watch_self (slot : String) (v : View) : (s.watch slot v).view? slot = some v := by
  simp [view?, watch]

theorem view?_watch_of_ne {slot other : String} (h : other ≠ slot) (v : View) :
    (s.watch slot v).view? other = s.view? other := by
  have hb : (other == slot) = false := by simpa using h
  simp only [view?, watch, List.lookup_cons, hb]
  exact s.view?_forget_of_ne h

theorem maps_detach (place other : Place) (slot : String) :
    (s.detach place).maps slot other = (s.maps slot other && other ≠ place) := by
  unfold maps
  rw [view?_detach]
  cases s.view? slot with
  | none => rfl
  | some v => exact v.maps_detach place other

theorem maps_forget_self (slot : String) (place : Place) :
    (s.forget slot).maps slot place = false := by
  have none : (s.forget slot).view? slot = none := by
    apply List.lookup_eq_none_iff.mpr
    intro entry mem
    have apart : entry.1 ≠ slot := by simpa using (List.mem_filter.mp mem).2
    simpa using apart.symm
  simp [maps, none]

theorem maps_watch_self (slot : String) (v : View) (place : Place) :
    (s.watch slot v).maps slot place = v.maps place := by
  rw [maps, view?_watch_self, Option.any_some]

theorem slot?_clear_of_ne (s : Session) {slot other : String} (h : other ≠ slot) :
    (s.clear slot).slot? other = s.slot? other :=
  lookup_filter_ne s.slots h

theorem slot?_put_self (s : Session) (slot : String) (i : Instance) :
    (s.put slot i).slot? slot = some i := by
  simp [slot?, put]

theorem slot?_put_of_ne (s : Session) {slot other : String} (i : Instance) (h : other ≠ slot) :
    (s.put slot i).slot? other = s.slot? other := by
  have hb : (other == slot) = false := by simpa using h
  simp only [slot?, put, List.lookup_cons, hb]
  exact slot?_clear_of_ne s h

theorem slot?_vacate_of_ne (s : Session) {slot other : String} (h : other ≠ slot) :
    (s.vacate slot).slot? other = s.slot? other := by
  unfold vacate
  split
  · exact slot?_clear_of_ne s h
  · rfl

theorem slot?_openVacant_of_ne (s : Session) {slot other : String} (choice : Choice) (path : Path)
    (faceIndex : Nat) (size : Binary32) (h : other ≠ slot) :
    (s.openVacant slot choice path faceIndex size).1.slot? other = s.slot? other := by
  unfold openVacant
  simp only
  split
  · exact slot?_put_of_ne _ _ h
  · rfl

theorem slot?_overlay (s : Session) (place : Place) (bytes : Bytes) (slot : String) :
    (s.overlay place bytes).slot? slot = (s.slot? slot).map (s.shown place bytes slot) :=
  lookup_map s.slots (s.shown place bytes) slot

theorem exists_showing (s : Session) (place : Place) (bytes : Bytes) (slot : String)
    (i : Instance) :
    ∃ data companion face, s.shown place bytes slot i = i.showing data companion face := by
  unfold shown
  cases s.view? slot with
  | none => exact ⟨i.data, i.companion, i.face.value, rfl⟩
  | some v => exact i.exists_showing v place bytes

theorem slot?_overlay_of_not_maps {s : Session} {slot : String} {place : Place}
    (apart : s.maps slot place = false) (bytes : Bytes) :
    (s.overlay place bytes).slot? slot = s.slot? slot := by
  have same (i : Instance) : s.shown place bytes slot i = i := by
    unfold shown
    cases held : s.view? slot with
    | none => rfl
    | some v =>
      rw [maps, held, Option.any_some] at apart
      exact i.reread_of_not_maps apart bytes
  rw [slot?_overlay, show s.shown place bytes slot = id from funext same, Option.map_id, id]

theorem maps_vacate_self (slot : String) (place : Place) :
    (s.vacate slot).maps slot place =
      if (s.slot? slot).isSome then false else s.maps slot place := by
  unfold vacate
  cases s.slot? slot with
  | none => rfl
  | some i => exact maps_forget_self _ slot place

theorem view?_vacate_of_ne {slot other : String} (h : other ≠ slot) :
    (s.vacate slot).view? other = s.view? other := by
  unfold vacate
  split
  · exact view?_forget_of_ne _ h
  · rfl

theorem view?_openVacant_of_ne {slot other : String} (choice : Choice) (path : Path)
    (faceIndex : Nat) (size : Binary32) (h : other ≠ slot) :
    (s.openVacant slot choice path faceIndex size).1.view? other = s.view? other := by
  unfold openVacant
  simp only
  split
  · exact view?_watch_of_ne _ h _
  · rfl

/-- To remove a file changes the files and what of them is mapped, and nothing else. -/
theorem exists_advance_remove (s : Session) (path : Path) :
    ∃ views, (s.advance (.remove path)).1 = { s with tree := (s.tree.remove path).1, views } := by
  cases found : (s.tree.remove path).2 with
  | false => exact ⟨s.views, by simp [advance, found]⟩
  | true => exact ⟨(s.detach (FileTree.placeOf path)).views, by simp [advance, found, detach]⟩

/-- A slot changes only by steps that name it, and by in-place changes of what its instance maps. -/
theorem slot?_advance_of_ne (s : Session) {step : Step} {slot : String}
    (h : step.slot? ≠ some slot) (calm : s.disturbs slot step = false) :
    (s.advance step).1.slot? slot = s.slot? slot := by
  cases step <;> simp only [Step.slot?, ne_eq, Option.some.injEq] at h <;> simp only [advance]
  case openInstance =>
    rw [slot?_openVacant_of_ne _ _ _ _ _ (Ne.symm h), slot?_vacate_of_ne _ (Ne.symm h)]
  case ask => split <;> rfl
  case setVertical =>
    split
    · exact slot?_put_of_ne _ _ (Ne.symm h)
    · rfl
  case destroy =>
    split
    · exact slot?_vacate_of_ne _ (Ne.symm h)
    · rfl
  case drop =>
    split
    · exact slot?_vacate_of_ne _ (Ne.symm h)
    · rfl
  case write => rfl
  case overwrite => exact slot?_overlay_of_not_maps calm _
  case remove path =>
    obtain ⟨views, removed⟩ := s.exists_advance_remove path
    exact congrArg (·.slot? slot) removed

end Session
end SizedFace
