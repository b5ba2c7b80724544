import SizedFace.Proofs.Replies

namespace SizedFace

namespace FileTree

variable {tree : FileTree} {path : Path} {place : Place} {node : Node}

/-- A walk that comes to something comes to where its names lead. -/
theorem walk_eq_ok {names : List (List UInt8)} {here : Place}
    (walked : tree.walk here names = .ok (place, node)) :
    place = names.foldl enter here ∧ tree.node? place = some node := by
  induction names generalizing here with
  | nil =>
    unfold walk at walked
    cases there : tree.node? here with
    | none =>
      rw [there] at walked
      cases walked
    | some other =>
      rw [there] at walked
      cases walked
      exact ⟨rfl, there⟩
  | cons name names ih =>
    unfold walk at walked
    rw [List.foldl_cons, enter]
    cases there : tree.node? here with
    | none =>
      rw [there] at walked
      cases walked
    | some other =>
      rw [there] at walked
      cases other with
      | file file => cases walked
      | closed fault => cases walked
      | untold fault => cases walked
      | directory =>
        simp only at walked
        split at walked
        · rename_i stays
          rw [if_pos stays]
          exact ih walked
        · rename_i moves
          rw [if_neg moves]
          split at walked
          · rename_i climbs
            rw [if_pos climbs]
            exact ih walked
          · rename_i descends
            rw [if_neg descends]
            split at walked
            · cases walked
            · exact ih walked

theorem find_eq_ok (found : tree.find path = .ok (place, node)) :
    place = placeOf path ∧ tree.node? place = some node := by
  unfold find at found
  split at found
  · cases found
  · split at found
    · cases found
    · split at found
      · cases found
      · exact walk_eq_ok found

theorem remove_cases (tree : FileTree) (path : Path) :
    tree.remove path = (tree, false) ∨ tree.remove path = (tree.erase (placeOf path), true) := by
  unfold remove
  cases found : tree.find path with
  | error fault => exact .inl rfl
  | ok entry =>
    obtain ⟨place, node⟩ := entry
    obtain rfl := (find_eq_ok found).1
    cases node with
    | directory => exact .inl rfl
    | _ => exact .inr rfl

/-- The data is what the file at a place gives to those who map it, as far as both go. -/
def Shows (tree : FileTree) (place : Place) (data : FontData) : Prop :=
  ∃ file bytes, tree.node? place = some (.file file) ∧ file.mapping = .ok bytes ∧
    ∀ i byte, i < data.size → bytes.get? i = some byte → data.bytes.get? i = some byte

theorem Shows.congr {other : FileTree} {data : FontData} (h : tree.Shows place data)
    (same : other.node? place = tree.node? place) : other.Shows place data := by
  unfold Shows
  rw [same]
  exact h

theorem Shows.ne_root {data : FontData} (h : tree.Shows place data) : place ≠ [] := by
  rintro rfl
  obtain ⟨file, bytes, held, -⟩ := h
  cases held

/-- What a file is overwritten with shows in the data of those who map it. -/
theorem Shows.overwrite {data : FontData} (h : tree.Shows (placeOf path) data)
    (content beyond : Bytes) :
    (tree.write path content).Shows (placeOf path) (data.shown (content.append beyond)) := by
  refine ⟨.ordinary content, content, tree.node?_put_self _ h.ne_root, rfl, ?_⟩
  intro i byte below stored
  have inside : i < data.size := by
    rwa [FontData.size, FontData.shown, Bytes.size_slice] at below
  have shown : (content.append beyond).get? i = some byte := by
    rw [Bytes.get?_append_left (Bytes.lt_size_of_get? stored), stored]
  have within : 0 + i < (content.append beyond).size := by
    rw [Nat.zero_add]
    exact Bytes.lt_size_of_get? shown
  rw [FontData.shown, Bytes.get?_slice_of_lt _ inside within, Nat.zero_add, shown]

theorem look_eq_file {file : File} (there : tree.look path = .ok (.file file)) :
    ∃ place, tree.find path = .ok (place, .file file) := by
  unfold look at there
  cases found : tree.find path with
  | error fault =>
    rw [found] at there
    cases there
  | ok entry =>
    obtain ⟨place, node⟩ := entry
    rw [found] at there
    cases node with
    | file other =>
      cases there
      exact ⟨place, rfl⟩
    | _ => cases there

/-- Data that maps a file shows it. -/
theorem shows_of_load {config : LoadConfig} {data : FontData}
    (loaded : (FontData.load tree path config).1 = .ok data)
    (mapped : tree.mappedAt? path data = some place) : tree.Shows place data := by
  obtain ⟨file, there, taken⟩ := FontData.load_eq_ok loaded
  obtain ⟨other, found⟩ := look_eq_file there
  have how := FontData.ofFile_eq_ok taken
  unfold mappedAt? at mapped
  split at mapped
  · rename_i maps
    rw [maps, if_pos rfl] at how
    rw [found] at mapped
    cases mapped
    exact ⟨file, data.bytes, (find_eq_ok found).2, how.2, fun i byte _ stored => stored⟩
  · cases mapped

end FileTree

/-- An instance has before it what the files hold that it maps, and answers from that. -/
structure View.Coherent (v : View) (tree : FileTree) (i : Instance) : Prop where
  data : ∀ place, v.data = some place → tree.Shows place i.data
  companion : ∀ place, v.companion = some place →
    ∃ data, i.companion = some data ∧ tree.Shows place data
  face : i.face.value = v.reread i.data i.companion

namespace View.Coherent

variable {v : View} {tree : FileTree} {i : Instance}

/-- What is opened is coherent with the files that it was opened from. -/
theorem opened {c : Choice} {environment : LoadConfig} {r : Request}
    (made : ((c.options environment).openInstance tree r).1 = .ok i) :
    (c.view tree r.path i).Coherent tree i := by
  have built := Options.built_of_openInstance made
  refine ⟨?_, ?_, ?_⟩
  · intro place mapped
    exact FileTree.shows_of_load (Options.load_of_data? built.loaded) mapped
  · intro place mapped
    obtain ⟨path, wanted, more⟩ := Option.bind_eq_some_iff.1 mapped
    obtain ⟨data, held, mapped⟩ := Option.bind_eq_some_iff.1 more
    obtain ⟨other, wanted', loaded⟩ := Options.load_of_loadCompanion (built.companion ▸ held)
    obtain rfl : path = other := Option.some.inj (wanted.symm.trans wanted')
    exact ⟨data, held, FileTree.shows_of_load loaded mapped⟩
  · have kept := c.outline.reread_self i.data i.companion r.faceIndex i.face.value built.opened
    rw [← built.faceIndex] at kept
    exact kept.symm

theorem setVertical (h : v.Coherent tree i) (vertical : Bool) :
    v.Coherent tree (i.setVertical vertical) :=
  ⟨h.data, h.companion, h.face⟩

/-- A file that is taken away, or replaced, matters no more. -/
theorem detach (h : v.Coherent tree i) {place : Place} {after : FileTree}
    (others : ∀ other, other ≠ place → after.node? other = tree.node? other) :
    (v.detach place).Coherent after i := by
  refine ⟨?_, ?_, h.face⟩
  · intro other mapped
    obtain ⟨held, apart⟩ := Option.filter_eq_some_iff.1 mapped
    exact (h.data other held).congr (others other (by simpa using apart))
  · intro other mapped
    obtain ⟨held, apart⟩ := Option.filter_eq_some_iff.1 mapped
    obtain ⟨data, own, shows⟩ := h.companion other held
    exact ⟨data, own, shows.congr (others other (by simpa using apart))⟩

/-- A file that is changed in place is read again by those who map it. -/
theorem overwrite (h : v.Coherent tree i) (path : Path) (content beyond : Bytes) :
    v.Coherent (tree.write path content)
      (i.reread v (FileTree.placeOf path) (content.append beyond)) := by
  have others {place : Place} (apart : place ≠ FileTree.placeOf path) :
      (tree.write path content).node? place = tree.node? place :=
    tree.node?_put_of_ne _ apart
  refine ⟨?_, ?_, Instance.face_reread h.face _ _⟩
  · intro place mapped
    rw [Instance.data_reread]
    by_cases reached : v.data = some (FileTree.placeOf path)
    · obtain rfl : FileTree.placeOf path = place := Option.some.inj (reached.symm.trans mapped)
      rw [if_pos reached]
      exact (h.data _ mapped).overwrite content beyond
    · rw [if_neg reached]
      exact (h.data place mapped).congr (others fun same => reached (same ▸ mapped))
  · intro place mapped
    obtain ⟨data, held, shows⟩ := h.companion place mapped
    rw [Instance.companion_reread, held]
    by_cases reached : v.companion = some (FileTree.placeOf path)
    · obtain rfl : FileTree.placeOf path = place := Option.some.inj (reached.symm.trans mapped)
      rw [if_pos reached]
      exact ⟨_, rfl, shows.overwrite content beyond⟩
    · rw [if_neg reached]
      exact ⟨data, rfl, shows.congr (others fun same => reached (same ▸ mapped))⟩

end View.Coherent

namespace Session

/-- Every instance of a session is coherent with the files as they are. -/
def Coherent (s : Session) : Prop :=
  ∀ slot i, s.slot? slot = some i → ∃ v, s.view? slot = some v ∧ v.Coherent s.tree i

theorem Coherent.start (tree : FileTree) (environment : Environment) :
    (Session.start tree environment).Coherent := by
  intro slot i held
  cases held

namespace Coherent

variable {s : Session}

theorem vacate (h : s.Coherent) (slot : String) : (s.vacate slot).Coherent := by
  intro other i held
  by_cases same : other = slot
  · rw [same, slot?_vacate_self] at held
    cases held
  · rw [slot?_vacate_of_ne s same] at held
    obtain ⟨v, viewed, coherent⟩ := h other i held
    rw [view?_vacate_of_ne s same, (s.sameOutside_vacate slot).tree]
    exact ⟨v, viewed, coherent⟩

theorem openVacant (h : s.Coherent) (slot : String) (choice : Choice) (path : Path)
    (faceIndex : Nat) (size : Binary32) :
    (s.openVacant slot choice path faceIndex size).1.Coherent := by
  cases made : (s.attempt choice path faceIndex size).1 with
  | error fault =>
    rw [openVacant_of_error slot made]
    exact h
  | ok i =>
    rw [openVacant_of_ok slot made]
    intro other j held
    by_cases same : other = slot
    · rw [same, slot?_watch, slot?_put_self] at held
      cases held
      rw [same, view?_watch_self]
      exact ⟨_, rfl, .opened made⟩
    · rw [slot?_watch, slot?_put_of_ne _ _ same] at held
      obtain ⟨v, viewed, coherent⟩ := h other j held
      rw [view?_watch_of_ne _ same]
      exact ⟨v, viewed, coherent⟩

theorem turn (h : s.Coherent) {slot : String} {i : Instance} (held : s.slot? slot = some i)
    (vertical : Bool) : (s.put slot (i.setVertical vertical)).Coherent := by
  intro other j held'
  by_cases same : other = slot
  · rw [same, slot?_put_self] at held'
    cases held'
    obtain ⟨v, viewed, coherent⟩ := h slot i held
    rw [same]
    exact ⟨v, viewed, coherent.setVertical vertical⟩
  · rw [slot?_put_of_ne _ _ same] at held'
    exact h other j held'

theorem detach (h : s.Coherent) {place : Place} {after : FileTree}
    (others : ∀ other, other ≠ place → after.node? other = s.tree.node? other) :
    ({ s.detach place with tree := after } : Session).Coherent := by
  intro slot i held
  obtain ⟨v, viewed, coherent⟩ := h slot i held
  refine ⟨v.detach place, ?_, coherent.detach others⟩
  change (s.detach place).view? slot = _
  rw [view?_detach, viewed, Option.map_some]

theorem overwrite (h : s.Coherent) (path : Path) (content beyond : Bytes) :
    (s.advance (.overwrite path content beyond)).1.Coherent := by
  intro slot i held
  have shown := s.slot?_overlay (FileTree.placeOf path) (content.append beyond) slot
  have held' : (s.overlay (FileTree.placeOf path) (content.append beyond)).slot? slot = some i :=
    held
  rw [shown] at held'
  obtain ⟨j, before, rfl⟩ := Option.map_eq_some_iff.1 held'
  obtain ⟨v, viewed, coherent⟩ := h slot j before
  refine ⟨v, viewed, ?_⟩
  rw [Session.shown, viewed]
  exact coherent.overwrite path content beyond

theorem remove (h : s.Coherent) (path : Path) : (s.advance (.remove path)).1.Coherent := by
  rcases s.tree.remove_cases path with removed | removed
  · simp only [Session.advance, removed]
    exact h
  · simp only [Session.advance, removed, if_true]
    exact h.detach fun other apart => s.tree.node?_erase_of_ne apart

theorem advance (h : s.Coherent) (step : Step) : (s.advance step).1.Coherent := by
  cases step with
  | openInstance slot choice path faceIndex size =>
    exact (h.vacate slot).openVacant slot choice path faceIndex size
  | ask slot query =>
    simp only [Session.advance]
    split <;> exact h
  | setVertical slot vertical =>
    simp only [Session.advance]
    split
    · exact h.turn (by assumption) vertical
    · exact h
  | destroy slot =>
    rw [advance_destroy]
    exact h.vacate slot
  | drop slot =>
    rw [advance_drop]
    exact h.vacate slot
  | write path content => exact h.detach fun other apart => s.tree.node?_put_of_ne _ apart
  | overwrite path content beyond => exact h.overwrite path content beyond
  | remove path => exact h.remove path
  | count => exact h

end Coherent

/-- Through every run, the instances have before them what the files hold by then that they map, and
answer from that. -/
theorem coherent_run (tree : FileTree) (environment : Environment) (steps : List Step) :
    ((Session.start tree environment).run steps).1.Coherent := by
  have kept {s : Session} (h : s.Coherent) (steps : List Step) : (s.run steps).1.Coherent := by
    induction steps generalizing s with
    | nil => exact h
    | cons step rest ih => exact ih (h.advance step)
  exact kept (.start tree environment) steps

end Session
end SizedFace
