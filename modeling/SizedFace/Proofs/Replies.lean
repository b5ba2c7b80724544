import SizedFace.Proofs.Assembly
import SizedFace.Proofs.Ledger
import SizedFace.Proofs.Numbering
import SizedFace.Proofs.Precedence

namespace SizedFace

namespace FontData

variable {tree : FileTree} {path : Path} {config : LoadConfig} {data : FontData}

theorem load_of_look {tree' : FileTree} (same : tree'.look path = tree.look path)
    (config : LoadConfig) : load tree' path config = load tree path config := by
  unfold load
  rw [same]

theorem load_eq_ok (loaded : (load tree path config).1 = .ok data) :
    ∃ file, tree.look path = .ok (.file file) ∧ (ofFile path config file).1 = .ok data := by
  unfold load at loaded
  cases found : tree.look path with
  | error fault =>
    simp only [found] at loaded
    split at loaded <;> cases loaded
  | ok node =>
    rw [found] at loaded
    cases node with
    | file file => exact ⟨file, rfl, loaded⟩
    | _ => cases loaded

theorem ofFile_eq_ok {file : File} (loaded : (ofFile path config file).1 = .ok data) :
    if data.mapped then config.mapFiles = true ∧ file.mapping = .ok data.bytes
    else file.reading = .ok data.bytes := by
  unfold ofFile at loaded
  split at loaded
  · cases loaded
  · split at loaded
    · rename_i maps
      cases bytes : file.mapping with
      | error fault =>
        rw [bytes] at loaded
        cases loaded
      | ok mapped =>
        rw [bytes] at loaded
        cases loaded
        exact ⟨(Bool.and_eq_true_iff.1 maps).1, rfl⟩
    · split at loaded
      · cases bytes : file.reading with
        | error fault =>
          rw [bytes] at loaded
          cases loaded
        | ok read =>
          rw [bytes] at loaded
          cases loaded
          rfl
      · cases loaded

end FontData

/-- What an opening sees of the files: what is at its path, and at that of its companion. -/
structure Sight where
  primary : Except AccessFault Node
  companion : Option (Except AccessFault Node)

namespace Options

theorem load_of_data? {o : Options} {tree : FileTree} {r : Request} {data : FontData}
    (loaded : o.data? tree r = some data) : (FontData.load tree r.path o.config).1 = .ok data := by
  unfold data? at loaded
  cases own : (FontData.load tree r.path o.config).1 with
  | error fault =>
    rw [own] at loaded
    cases loaded
  | ok other =>
    rw [own] at loaded
    cases loaded
    rfl

theorem load_of_loadCompanion {o : Options} {tree : FileTree} {data : FontData}
    (loaded : (o.loadCompanion tree).1 = some data) :
    ∃ path, o.companion = some path ∧ (FontData.load tree path o.config).1 = .ok data := by
  unfold loadCompanion at loaded
  cases wanted : o.companion with
  | none =>
    rw [wanted] at loaded
    cases loaded
  | some path =>
    simp only [wanted] at loaded
    rcases found : FontData.load tree path o.config with ⟨fault | other, said⟩
    · simp only [found] at loaded
      cases loaded
    · simp only [found] at loaded
      cases loaded
      exact ⟨path, rfl, congrArg Prod.fst found⟩

def sight (o : Options) (tree : FileTree) (path : Path) : Sight :=
  ⟨tree.look path, o.companion.map tree.look⟩

/-- An opening depends on no file that it does not see. -/
theorem openInstance_of_sight {o : Options} {tree tree' : FileTree} {r : Request}
    (same : o.sight tree' r.path = o.sight tree r.path) :
    o.openInstance tree' r = o.openInstance tree r := by
  obtain ⟨primary, companion⟩ := Sight.mk.inj same
  have mimics : o.Mimics tree r o tree' := by
    refine ⟨rfl, rfl, rfl, rfl, ?_⟩
    intro call asks
    cases asks with
    | primary sized => exact FontData.load_of_look primary _
    | companion loads wanted =>
      rw [wanted] at companion
      exact FontData.load_of_look (Option.some.inj companion) _
    | openFace loads => rfl
    | createHandle faces grid => rfl
    | attach shapes => rfl
  exact mimics.openInstance

end Options

/-- What comes of an opening with this result. -/
def Outcome.ofOpening : Except OpenFault Instance → Outcome
  | .ok i => .answered (i.answer .summary)
  | .error fault => .failed fault

def Step.change (tree : FileTree) : Step → FileTree
  | .write path content | .overwrite path content _ => tree.write path content
  | .remove path => (tree.remove path).1
  | _ => tree

/-- Whether a step can matter for a slot: it names the slot or changes files. -/
def Step.concerns (slot : String) : Step → Bool
  | .write .. | .overwrite .. | .remove _ => true
  | step => step.slot? = some slot

def Step.opens (slot : String) : Step → Bool
  | .openInstance other .. => other = slot
  | _ => false

def Step.ends (slot : String) : Step → Bool
  | .openInstance other .. | .destroy other | .drop other => other = slot
  | _ => false

/-- Whether a step surely leaves a slot its instance, if not its direction: it does not end it, and
changes no file in place. -/
def Step.leaves (slot : String) : Step → Bool
  | .ask .. | .setVertical .. => true
  | .overwrite .. => false
  | step => step.slot? ≠ some slot

/-- Whether a step opens a slot, if at all, with files that are read and not mapped. -/
def Step.reads (slot : String) (environment : LoadConfig) : Step → Bool
  | .openInstance other choice .. =>
    other ≠ slot || !(choice.options environment).config.mapFiles
  | _ => true

/-- What comes of a step, and what is said of it. -/
structure Reply where
  outcome : Outcome
  said : List Notice

namespace Session

/-- What comes to a slot: a step that names it, and what it sees of the files if it opens. -/
def turn (s : Session) (step : Step) : Step × Option Sight :=
  (step, match step with
    | .openInstance _ choice path .. => some ((choice.options s.config).sight s.tree path)
    | _ => none)

def turns (s : Session) (slot : String) : List Step → List (Step × Option Sight)
  | [] => []
  | step :: rest =>
    let later := (s.advance step).1.turns slot rest
    if step.slot? = some slot then s.turn step :: later else later

def parting (s : Session) (slot : String) : Journal :=
  match s.slot? slot with
  | some i => i.teardown
  | none => []

/-- What a step adds to the journal. -/
def entries (s : Session) : Step → Journal
  | .openInstance slot choice path faceIndex size =>
    s.parting slot ++ Journal.told s.unheard ++ (s.attempt choice path faceIndex size).2
  | .destroy slot | .drop slot => s.parting slot
  | _ => []

/-- The session once what the reading of the environment says was heard. -/
def heard (s : Session) : Session := { s with unheard := [] }

/-- What comes of a step, and what is said of it apart from the environment. -/
def reply (s : Session) (step : Step) : Reply :=
  ⟨(s.advance step).2, (s.heard.entries step).notices⟩

def repliesAt (s : Session) (slot : String) : List Step → List Reply
  | [] => []
  | step :: rest =>
    let later := (s.advance step).1.repliesAt slot rest
    if step.slot? = some slot then s.reply step :: later else later

/-- No step of a run changes, in place, a file that the slot maps by then. -/
def Undisturbed (s : Session) (slot : String) : List Step → Prop
  | [] => True
  | step :: rest => s.disturbs slot step = false ∧ (s.advance step).1.Undisturbed slot rest

theorem advance_destroy (s : Session) (slot : String) :
    s.advance (.destroy slot) =
      (s.vacate slot, if (s.slot? slot).isSome then .destroyed else .vacant) := by
  cases held : s.slot? slot <;> simp [advance, vacate, held]

theorem advance_drop (s : Session) (slot : String) :
    s.advance (.drop slot) =
      (s.vacate slot, if (s.slot? slot).isSome then .dropped else .vacant) := by
  cases held : s.slot? slot <;> simp [advance, vacate, held]

/-- A torn-down instance matters to no attempt. -/
theorem attempt_vacate (s : Session) (slot : String) (choice : Choice) (path : Path)
    (faceIndex : Nat) (size : Binary32) :
    (s.vacate slot).attempt choice path faceIndex size = s.attempt choice path faceIndex size := by
  unfold vacate
  split <;> rfl

/-- Two sessions look the same to an opening: the same files, and the same configuration of the
environment. -/
structure SameOutside (s t : Session) : Prop where
  tree : t.tree = s.tree
  config : t.config = s.config

theorem sameOutside_vacate (s : Session) (slot : String) : SameOutside s (s.vacate slot) := by
  unfold vacate
  split <;> exact ⟨rfl, rfl⟩

theorem sameOutside_openVacant (s : Session) (slot : String) (choice : Choice) (path : Path)
    (faceIndex : Nat) (size : Binary32) :
    SameOutside s (s.openVacant slot choice path faceIndex size).1 := by
  unfold openVacant
  simp only
  split <;> exact ⟨rfl, rfl⟩

/-- A step changes the files by what it is, and never what the environment has configured. -/
theorem sameOutside_advance (s : Session) (step : Step) :
    SameOutside { s with tree := step.change s.tree } (s.advance step).1 := by
  cases step with
  | openInstance slot choice path faceIndex size =>
    have vacated := s.sameOutside_vacate slot
    have opened := (s.vacate slot).sameOutside_openVacant slot choice path faceIndex size
    exact ⟨opened.tree.trans vacated.tree, opened.config.trans vacated.config⟩
  | ask slot query =>
    simp only [advance]
    split <;> exact ⟨rfl, rfl⟩
  | setVertical slot vertical =>
    simp only [advance]
    split <;> exact ⟨rfl, rfl⟩
  | destroy slot =>
    rw [advance_destroy]
    exact s.sameOutside_vacate slot
  | drop slot =>
    rw [advance_drop]
    exact s.sameOutside_vacate slot
  | remove path =>
    obtain ⟨views, removed⟩ := s.exists_advance_remove path
    rw [removed]
    exact ⟨rfl, rfl⟩
  | write path content => exact ⟨rfl, rfl⟩
  | overwrite path content beyond => exact ⟨rfl, rfl⟩
  | count => exact ⟨rfl, rfl⟩

theorem config_advance (s : Session) (step : Step) : (s.advance step).1.config = s.config :=
  (s.sameOutside_advance step).config

theorem tree_advance (s : Session) (step : Step) : (s.advance step).1.tree = step.change s.tree :=
  (s.sameOutside_advance step).tree

theorem SameOutside.turn {s t : Session} (h : SameOutside s t) (step : Step) :
    t.turn step = s.turn step := by
  simp only [Session.turn, h.tree, h.config]

theorem outcome_openVacant (s : Session) (slot : String) (choice : Choice) (path : Path)
    (faceIndex : Nat) (size : Binary32) :
    (s.openVacant slot choice path faceIndex size).2 =
      .ofOpening ((s.attempt choice path faceIndex size).renumber 0).1 := by
  cases made : (s.attempt choice path faceIndex size).1 with
  | error fault =>
    rw [openVacant_of_error slot made]
    simp only [Opened.renumber, made]
    rfl
  | ok i =>
    rw [openVacant_of_ok slot made]
    simp only [Opened.renumber, made]
    exact congrArg Outcome.answered (i.answer_renumber 0 .summary).symm

theorem slot?_openVacant_self {s : Session} {slot : String} (vacant : s.slot? slot = none)
    (choice : Choice) (path : Path) (faceIndex : Nat) (size : Binary32) :
    (s.openVacant slot choice path faceIndex size).1.slot? slot =
      (s.attempt choice path faceIndex size).1.toOption := by
  cases made : (s.attempt choice path faceIndex size).1 with
  | error fault =>
    have still : (s.attempted (s.attempt choice path faceIndex size)).slot? slot = none := vacant
    rw [openVacant_of_error slot made, still]
    rfl
  | ok i =>
    rw [openVacant_of_ok slot made, slot?_watch, slot?_put_self]
    rfl

/-- What a slot holds after an opening of it is what the opening came to. -/
theorem slot?_advance_openInstance (s : Session) (slot : String) (choice : Choice) (path : Path)
    (faceIndex : Nat) (size : Binary32) :
    (s.advance (.openInstance slot choice path faceIndex size)).1.slot? slot =
      (s.attempt choice path faceIndex size).1.toOption := by
  rw [advance, slot?_openVacant_self (slot?_vacate_self _ slot), attempt_vacate]

/-- Two sessions are alike at a slot: they are configured alike, and hold the same instance there,
opened under whatever number. -/
structure Alike (slot : String) (s t : Session) : Prop where
  config : t.config = s.config
  held : (t.slot? slot).map (·.renumber 0) = (s.slot? slot).map (·.renumber 0)

namespace Alike

variable {slot : String} {s t u : Session}

theorem refl (slot : String) (s : Session) : Alike slot s s := ⟨rfl, rfl⟩

theorem trans (first : Alike slot s t) (second : Alike slot t u) : Alike slot s u :=
  ⟨second.config.trans first.config, second.held.trans first.held⟩

theorem symm (h : Alike slot s t) : Alike slot t s := ⟨h.config.symm, h.held.symm⟩

/-- A step that neither names the slot nor disturbs it leaves it alike. -/
theorem pass {step : Step} (other : step.slot? ≠ some slot)
    (calm : s.disturbs slot step = false) : Alike slot s (s.advance step).1 :=
  ⟨s.config_advance step, by rw [slot?_advance_of_ne s other calm]⟩

theorem cases (h : Alike slot s t) :
    (s.slot? slot = none ∧ t.slot? slot = none) ∨
      ∃ i j, s.slot? slot = some i ∧ t.slot? slot = some j ∧ j.renumber 0 = i.renumber 0 := by
  have held := h.held
  cases ours : s.slot? slot <;> cases theirs : t.slot? slot <;> rw [ours, theirs] at held
  · exact .inl ⟨rfl, rfl⟩
  · cases held
  · cases held
  · exact .inr ⟨_, _, rfl, rfl, Option.some.inj held⟩

/-- An opening that sees the same files comes to the same, under whatever number. -/
theorem attempt (h : Alike slot s t) {choice : Choice} {path : Path} (faceIndex : Nat)
    (size : Binary32)
    (seen : (choice.options s.config).sight t.tree path =
      (choice.options s.config).sight s.tree path) :
    (t.attempt choice path faceIndex size).renumber 0 =
      (s.attempt choice path faceIndex size).renumber 0 := by
  have numbered (v : Session) : (v.attempt choice path faceIndex size).renumber 0 =
      (choice.options v.config).openInstance v.tree ⟨path, faceIndex, size, 0⟩ :=
    (Options.openInstance_renumber _ v.tree ⟨path, faceIndex, size, v.openings⟩ 0).symm
  have same := Options.openInstance_of_sight (r := ⟨path, faceIndex, size, 0⟩) seen
  rw [numbered, numbered, h.config, same]

/-- Instances that are the same but for their numbers part with the same words. -/
theorem notices_parting (h : Alike slot s t) :
    (t.parting slot).notices = (s.parting slot).notices := by
  unfold parting
  rcases h.cases with ⟨ours, theirs⟩ | ⟨i, j, ours, theirs, same⟩ <;> rw [ours, theirs]
  have parts := congrArg (fun k => k.teardown.notices) same
  simpa only [Instance.teardown_renumber, Journal.notices_renumber] using parts

theorem advance_openInstance (h : Alike slot s t) {choice : Choice} {path : Path} (faceIndex : Nat)
    (size : Binary32)
    (seen : (choice.options s.config).sight t.tree path =
      (choice.options s.config).sight s.tree path) :
    let step := Step.openInstance slot choice path faceIndex size
    t.reply step = s.reply step ∧ Alike slot (s.advance step).1 (t.advance step).1 := by
  intro step
  have same := h.attempt faceIndex size seen
  have outcome : (t.advance step).2 = (s.advance step).2 := by
    simp only [step, Session.advance, outcome_openVacant, attempt_vacate, same]
  have said : (t.heard.entries step).notices = (s.heard.entries step).notices := by
    have words := congrArg (·.2.notices) same
    simp only [Opened.renumber, Journal.notices_renumber] at words
    change ((t.parting slot ++ Journal.told []) ++
        (t.attempt choice path faceIndex size).2).notices =
      ((s.parting slot ++ Journal.told []) ++ (s.attempt choice path faceIndex size).2).notices
    simp only [Journal.notices_append, h.notices_parting, words]
  refine ⟨by simp only [Session.reply, outcome, said], ?_, ?_⟩
  · rw [config_advance, config_advance, h.config]
  · have opened (v : Session) : ((v.attempt choice path faceIndex size).1.toOption).map
        (·.renumber 0) = ((v.attempt choice path faceIndex size).renumber 0).1.toOption := by
      unfold Opened.renumber
      cases (v.attempt choice path faceIndex size).1 <;> rfl
    rw [slot?_advance_openInstance, slot?_advance_openInstance, opened, opened, same]

/-- Tearing down leaves vacant slots. -/
theorem vacate (h : Alike slot s t) : Alike slot (s.vacate slot) (t.vacate slot) := by
  have ours := s.sameOutside_vacate slot
  have theirs := t.sameOutside_vacate slot
  refine ⟨?_, ?_⟩
  · rw [theirs.config, ours.config, h.config]
  · rw [slot?_vacate_self, slot?_vacate_self]

theorem isSome_slot? (h : Alike slot s t) : (t.slot? slot).isSome = (s.slot? slot).isSome := by
  rcases h.cases with ⟨ours, theirs⟩ | ⟨i, j, ours, theirs, same⟩ <;> rw [ours, theirs]
  rfl

/-- The same step has the same reply at slots that are alike, and leaves them alike. -/
theorem advance (h : Alike slot s t) {step : Step} (named : step.slot? = some slot)
    (seen : t.turn step = s.turn step) :
    t.reply step = s.reply step ∧ Alike slot (s.advance step).1 (t.advance step).1 := by
  have parted : (t.heard.parting slot).notices = (s.heard.parting slot).notices := h.notices_parting
  cases step with
  | openInstance _ choice path faceIndex size =>
    cases named
    simp only [turn, h.config, Prod.mk.injEq, Option.some.injEq, true_and] at seen
    exact h.advance_openInstance faceIndex size seen
  | ask _ query =>
    cases named
    rcases h.cases with ⟨ours, theirs⟩ | ⟨i, j, ours, theirs, same⟩
    · simp only [Session.reply, Session.advance, ours, theirs]
      exact ⟨rfl, h⟩
    · simp only [Session.reply, Session.advance, ours, theirs]
      refine ⟨?_, h⟩
      rw [← j.answer_renumber 0, same, i.answer_renumber 0]
      rfl
  | setVertical _ vertical =>
    cases named
    rcases h.cases with ⟨ours, theirs⟩ | ⟨i, j, ours, theirs, same⟩
    · simp only [Session.reply, Session.advance, ours, theirs]
      exact ⟨rfl, h⟩
    · simp only [Session.reply, Session.advance, ours, theirs]
      refine ⟨rfl, h.config, ?_⟩
      rw [slot?_put_self, slot?_put_self, Option.map_some, Option.map_some,
        ← Instance.setVertical_renumber, same, Instance.setVertical_renumber]
  | destroy _ =>
    cases named
    simp only [Session.reply, entries, advance_destroy, h.isSome_slot?, parted]
    exact ⟨trivial, h.vacate⟩
  | drop _ =>
    cases named
    simp only [Session.reply, entries, advance_drop, h.isSome_slot?, parted]
    exact ⟨trivial, h.vacate⟩
  | write path content => cases named
  | overwrite path content beyond => cases named
  | remove path => cases named
  | count => cases named

end Alike

end Session
end SizedFace
