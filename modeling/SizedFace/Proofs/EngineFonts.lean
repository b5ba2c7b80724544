import Mathlib.Algebra.Ring.Int.Defs
import SizedFace.Platform.NativeFont
import SizedFace.Proofs.Ledger

namespace SizedFace

/-- One more font, or one less, or nothing about fonts. -/
def Notice.font : Notice → Int
  | .shaperCreated _ _ => 1
  | .shaperReleased _ => -1
  | _ => 0

/-- How many more fonts were made than have gone, as far as it was said. -/
def fontBalance (notices : List Notice) : Int := (notices.map Notice.font).sum

@[simp] theorem fontBalance_nil : fontBalance [] = 0 := rfl

@[simp] theorem fontBalance_cons (notice : Notice) (rest : List Notice) :
    fontBalance (notice :: rest) = notice.font + fontBalance rest := by
  simp [fontBalance]

@[simp] theorem fontBalance_append (a b : List Notice) :
    fontBalance (a ++ b) = fontBalance a + fontBalance b := by
  simp [fontBalance]

/-- The backends of this library, and the scripted ones. -/
structure Choice.Stock (c : Choice) : Prop where
  outline : c.outline = Sfnt.outlines ∨ ∃ script : Script, c.outline = script.outlines
  shaping : c.shaping = Shaping.engine ∨ c.shaping = Shaping.unshaped ∨
    c.shaping = Scripted.shaping ∨ c.shaping = Scripted.refusingShaping
  platform : c.platform = none ∨ (∃ system, c.platform = some (Platform.native system)) ∨
    (∃ variant, c.platform = some (Scripted.platform variant)) ∨
    c.platform = some Scripted.refusingPlatform

def Step.Stock : Step → Prop
  | .openInstance _ choice .. => choice.Stock
  | _ => True

/-- How many fonts of the engine a part of this maker stands for. -/
def fontsOf (maker : Maker) : Nat := if maker = Shaping.engine.maker then 1 else 0

def Instance.fonts (i : Instance) : Nat := fontsOf i.shaper.handle.maker

/-- The instance will say so when its font goes, and nothing else will. -/
structure Instance.Told (i : Instance) : Prop where
  shaper : fontBalance i.shaper.value.farewell = -i.fonts
  platform : ∀ platform, i.platform = some platform → fontBalance platform.value.farewell = 0

/-- With so many fonts made before, what is said of the stages left agrees with their outcome. -/
def Opened.Says (opened : Opened) (made : Int) : Prop :=
  match opened.1 with
  | .ok i => i.Told ∧ made + fontBalance opened.2.notices = i.fonts
  | .error _ => made + fontBalance opened.2.notices = 0

theorem Opened.Says.after {opened : Opened} {made : Int} {journal : Journal}
    (h : opened.Says (made + fontBalance journal.notices)) : (opened.after journal).Says made := by
  unfold Says Opened.after at *
  simp only [Journal.notices_append, fontBalance_append]
  cases hr : opened.1 with
  | ok i =>
    simp only [hr] at h ⊢
    exact ⟨h.1, by rw [← h.2, Int.add_assoc]⟩
  | error fault =>
    simp only [hr] at h ⊢
    rw [← h, Int.add_assoc]

theorem fontBalance_load (tree : FileTree) (path : Path) (config : LoadConfig) :
    fontBalance (FontData.load tree path config).2 = 0 := by
  have hfile : ∀ file, fontBalance (FontData.ofFile path config file).2 = 0 := by
    intro file
    unfold FontData.ofFile
    repeat' split
    all_goals rfl
  unfold FontData.load
  repeat' split
  all_goals first | rfl | exact hfile _

theorem fontBalance_companionFace (companion : Option Bytes) :
    fontBalance (Sfnt.companionFace companion).2 = 0 := by
  unfold Sfnt.companionFace
  repeat' split
  all_goals rfl

theorem fontBalance_ofData (data : Bytes) (companion : Option Bytes) (index : Nat) :
    fontBalance (Sfnt.Face.ofData data companion index).2 = 0 := by
  have hcompanion := fontBalance_companionFace companion
  cases ho : Sfnt.openDirectory data index with
  | error fault => simp [Sfnt.Face.ofData, ho]
  | ok opened =>
    simp only [Sfnt.Face.ofData, ho, fontBalance_append, hcompanion]
    split <;> rfl

namespace Options

theorem fontBalance_loadCompanion (o : Options) (tree : FileTree) :
    fontBalance (o.loadCompanion tree).2 = 0 := by
  unfold loadCompanion
  cases o.companion with
  | none => rfl
  | some path =>
    have hload := fontBalance_load tree path o.config
    rcases hl : FontData.load tree path o.config with ⟨fault | data, said⟩ <;>
      simpa [hl, Notice.font] using hload

end Options

namespace Choice.Stock

variable {c : Choice}

theorem fontBalance_openFace (h : c.Stock) (data : FontData) (companion : Option FontData)
    (index : Nat) : fontBalance (c.outline.openFace data companion index).2 = 0 := by
  rcases h.outline with ho | ⟨script, ho⟩
  · rw [ho]
    exact fontBalance_ofData data.bytes (companion.map (·.bytes)) index
  · rw [ho]
    simp only [Script.outlines]
    repeat' split
    all_goals rfl

theorem fontBalance_attach (h : c.Stock) {backend : PlatformBackend}
    (hp : c.platform = some backend) (data : FontData) (index : Nat) (size : Binary32) :
    fontBalance (backend.attach data index size).2 = 0 := by
  rcases h.platform with hn | ⟨system, hn⟩ | ⟨variant, hn⟩ | hn <;> rw [hp] at hn <;> cases hn
  · simp only [Platform.native]
    repeat' split
    all_goals rfl
  · rfl
  · rfl

/-- No platform resources speak of fonts of the engine. -/
theorem fontBalance_farewell (h : c.Stock) {backend : PlatformBackend}
    (hp : c.platform = some backend) {data : FontData} {index : Nat} {size : Binary32}
    {resources : PlatformResources} (hr : (backend.attach data index size).1 = .ok resources) :
    fontBalance resources.farewell = 0 := by
  rcases h.platform with hn | ⟨system, hn⟩ | ⟨variant, hn⟩ | hn <;> rw [hp] at hn <;> cases hn
  · simp only [Platform.native] at hr
    repeat' split at hr
    all_goals cases hr
    rfl
  · cases hr
    rfl
  · cases hr

/-- The engine says that it made a font and will say that it goes; the others say neither. -/
theorem fontBalance_createHandle (h : c.Stock) (data : FontData) (index unitsPerEm : Nat) :
    match c.shaping.createHandle data index unitsPerEm with
    | (.error _, said) => fontBalance said = 0
    | (.ok shaper, said) =>
      fontBalance said = fontsOf c.shaping.maker ∧
      fontBalance shaper.farewell = -fontsOf c.shaping.maker := by
  rcases h.shaping with hs | hs | hs | hs
  · by_cases hc : (Shaping.site data.bytes index).glyphCount data.bytes = 0 <;>
      simp [hs, Shaping.engine, fontsOf, hc, Notice.font]
  · simp [hs, Shaping.engine, fontsOf, Shaping.unshaped, Notice.font]
  · simp [hs, Shaping.engine, fontsOf, Scripted.shaping]
  · simp [hs, Scripted.refusingShaping]

variable (config : LoadConfig) (tree : FileTree) (r : Request) (data : FontData)
  (companion : Option FontData) (face : Possession OutlineFace)

theorem says_attach (h : c.Stock) (shaper : Possession ShapingHandle) {made : Nat}
    (hm : made = fontsOf shaper.handle.maker)
    (hf : fontBalance shaper.value.farewell = -made) :
    ((c.options config).attach r data companion face shaper).Says made := by
  have htold : ∀ platform : Option (Possession PlatformResources),
      (∀ p, platform = some p → fontBalance p.value.farewell = 0) →
      (Options.assemble r data companion face shaper platform).fonts = made ∧
      (Options.assemble r data companion face shaper platform).Told := by
    intro platform hquiet
    have hfonts : (Options.assemble r data companion face shaper platform).fonts = made := hm.symm
    refine ⟨hfonts, ?_, hquiet⟩
    rw [hfonts]
    exact hf
  cases hp : c.platform with
  | none =>
    obtain ⟨hfonts, hinst⟩ := htold none (by simp)
    simp [Opened.Says, Options.attach, Choice.options, hp, Notice.font, hfonts, hinst]
  | some backend =>
    have hsaid := h.fontBalance_attach hp data r.faceIndex r.pointSize
    rcases ha : backend.attach data r.faceIndex r.pointSize with ⟨fault | resources, said⟩
    · rw [ha] at hsaid
      simp [Opened.Says, Options.attach, Choice.options, hp, ha, hsaid, hf]
    · rw [ha] at hsaid
      have hquiet := h.fontBalance_farewell hp (congrArg Prod.fst ha)
      obtain ⟨hfonts, hinst⟩ := htold (some ⟨resources, r.handle .platform backend.maker⟩)
        (by rintro p ⟨⟩; exact hquiet)
      simp [Opened.Says, Options.attach, Choice.options, hp, ha, Opened.after, Notice.font, hsaid,
        hfonts, hinst]

theorem says_shape (h : c.Stock) : ((c.options config).shape r data companion face).Says 0 := by
  have hmade := h.fontBalance_createHandle data r.faceIndex face.value.metrics.unitsPerEm
  rcases hs : c.shaping.createHandle data r.faceIndex face.value.metrics.unitsPerEm with
    ⟨fault | shaper, said⟩
  · rw [hs] at hmade
    simp only at hmade
    simp [Opened.Says, Options.shape, Choice.options, hs, Opened.failed, hmade]
  · rw [hs] at hmade
    obtain ⟨hsaid, hfarewell⟩ := hmade
    have hattach := h.says_attach config r data companion face
      ⟨shaper, r.handle .shaper c.shaping.maker⟩ rfl hfarewell
    have hmissing : fontBalance (if face.value.metrics.capHeight = none
        then [Notice.capHeightMissing r.path] else []) = 0 := by
      split <;> rfl
    simp only [Options.shape, Choice.options, hs] at hattach ⊢
    apply Opened.Says.after
    simpa [hsaid, hmissing] using hattach

theorem says_outlineStage (h : c.Stock) :
    ((c.options config).outlineStage r data companion).Says 0 := by
  have hsaid := h.fontBalance_openFace data companion r.faceIndex
  rcases ho : c.outline.openFace data companion r.faceIndex with ⟨fault | face, said⟩
  · rw [ho] at hsaid
    simp [Opened.Says, Options.outlineStage, Choice.options, ho, Opened.failed, hsaid]
  · rw [ho] at hsaid
    have hshape := h.says_shape config r data companion ⟨face, r.handle .face c.outline.maker⟩
    by_cases hg : face.metrics.unitsPerEm = 0
    · simp [Opened.Says, Options.outlineStage, Choice.options, ho, hg, Opened.failed, hsaid]
    · simp only [Options.outlineStage, Choice.options, ho, hg, if_false] at hshape ⊢
      apply Opened.Says.after
      simpa [hsaid] using hshape

theorem says_openInstance (h : c.Stock) :
    ((c.options config).openInstance tree r).Says 0 := by
  have hload := fontBalance_load tree r.path (c.options config).config
  have hmore := (c.options config).fontBalance_loadCompanion tree
  unfold Options.openInstance
  by_cases hsize : isPointSize r.pointSize
  · rcases hl : FontData.load tree r.path (c.options config).config with ⟨fault | data, said⟩
    · rw [hl] at hload
      simp [Opened.Says, hsize, Opened.failed, hload]
    · rw [hl] at hload
      have hstage := h.says_outlineStage config r data ((c.options config).loadCompanion tree).1
      simp only [hsize, if_true]
      apply Opened.Says.after
      simpa [hload, hmore] using hstage
  · simp [Opened.Says, hsize, Opened.failed]

end Choice.Stock

def isEngine (maker : Maker) : Bool := maker = Shaping.engine.maker

theorem Instance.fonts_eq (i : Instance) :
    i.fonts = if i.holds isEngine .shaper then 1 else 0 := by
  by_cases h : i.shaper.handle.maker = Shaping.engine.maker <;>
    simp [fonts, fontsOf, holds, isEngine, h]

theorem Instance.Told.teardown {i : Instance} (h : i.Told) :
    fontBalance i.teardown.notices = -i.fonts := by
  have hshaper := h.shaper
  cases hi : i.platform with
  | none => simp [Instance.teardown, hi, Notice.font, hshaper]
  | some platform =>
    have hplatform := h.platform platform hi
    simp [Instance.teardown, hi, Notice.font, hshaper, hplatform]

theorem fontBalance_loadConfig (environment : Environment) :
    fontBalance environment.loadConfig.2 = 0 := by
  have hflag : ∀ value, fontBalance (LoadConfig.readFlag value).2 = 0 := by
    intro value
    unfold LoadConfig.readFlag
    repeat' split
    all_goals rfl
  have hlimit : ∀ value, fontBalance (LoadConfig.readLimit value).2 = 0 := by
    intro value
    unfold LoadConfig.readLimit
    repeat' split
    all_goals rfl
  simp [Environment.loadConfig, LoadConfig.ofVariables, hflag, hlimit]

namespace Session

/-- What every step with stock backends keeps: each live instance with a font will speak of it, and
no other font was spoken of without its end. -/
structure Spoken (s : Session) : Prop where
  told : ∀ i ∈ s.live, i.Told
  unheard : fontBalance s.unheard = 0
  balance : fontBalance s.journal.notices = s.live.countP (Instance.holds isEngine .shaper)

theorem Spoken.start (tree : FileTree) (environment : Environment) :
    (Session.start tree environment).Spoken := by
  refine ⟨by simp [Session.start, live], fontBalance_loadConfig environment, ?_⟩
  simp [Session.start, live]

theorem Spoken.vacate {s : Session} (h : s.Spoken) (hk : s.Kept) (slot : String) :
    (s.vacate slot).Spoken := by
  unfold Session.vacate
  cases hs : s.slot? slot with
  | none => exact h
  | some i =>
    have htold := (h.told i (mem_live_of_slot? hs)).teardown
    have hcount := (live_perm hk.keys hs).countP_eq (Instance.holds isEngine .shaper)
    refine ⟨fun j hj => h.told j (mem_live_of_clear hj), h.unheard, ?_⟩
    have hbalance := h.balance
    rw [hcount, List.countP_cons, ← Instance.fonts_eq] at hbalance
    change fontBalance (s.journal ++ i.teardown).notices =
      (s.clear slot).live.countP (Instance.holds isEngine .shaper)
    rw [Journal.notices_append, fontBalance_append, htold, hbalance]
    omega

/-- What is said of fonts has nothing to do with files, nor with what of them is mapped. -/
theorem Spoken.outside {s : Session} (h : s.Spoken) (tree : FileTree)
    (views : List (String × View)) : { s with tree, views }.Spoken :=
  ⟨h.told, h.unheard, h.balance⟩

theorem Spoken.overlay {s : Session} (h : s.Spoken) (place : Place) (bytes : Bytes) :
    (s.overlay place bytes).Spoken := by
  refine ⟨?_, h.unheard, ?_⟩
  · intro i hi
    obtain ⟨j, hj, data, companion, face, rfl⟩ := mem_live_of_overlay hi
    obtain ⟨hshaper, hplatform⟩ := h.told j hj
    exact ⟨hshaper, hplatform⟩
  · have hsame := s.map_live_overlay place bytes (f := Instance.holds isEngine .shaper)
      fun _ _ _ _ => rfl
    have hcount := congrArg (List.countP id) hsame
    simp only [List.countP_map, Function.id_comp] at hcount
    rw [hcount]
    exact h.balance

theorem Spoken.openVacant {s : Session} (h : s.Spoken) {slot : String}
    (hv : s.slot? slot = none) {choice : Choice} (hc : choice.Stock) (path : Path)
    (faceIndex : Nat) (size : Binary32) :
    (s.openVacant slot choice path faceIndex size).1.Spoken := by
  have hsays := hc.says_openInstance s.config s.tree (s.request path faceIndex size)
  change (s.attempt choice path faceIndex size).Says 0 at hsays
  unfold Opened.Says at hsays
  have hbalance := h.balance
  cases hr : (s.attempt choice path faceIndex size).1 with
  | ok i =>
    rw [hr] at hsays
    obtain ⟨htold, hsaid⟩ := hsays
    rw [openVacant_of_ok slot hr]
    have hlive := live_put_of_vacant (s := s.attempted (s.attempt choice path faceIndex size)) hv i
    refine Spoken.outside (s := (s.attempted _).put slot i) ⟨?_, rfl, ?_⟩ _ _
    · intro j hj
      rw [hlive] at hj
      rcases List.mem_cons.mp hj with rfl | hj
      · exact htold
      · exact h.told j hj
    · rw [hlive, List.countP_cons, ← Instance.fonts_eq]
      change fontBalance (s.journal ++ (Journal.told s.unheard ++ _)).notices =
        ((s.live.countP (Instance.holds isEngine .shaper) + i.fonts : Nat) : Int)
      simp only [Journal.notices_append, fontBalance_append, Journal.notices_told, h.unheard,
        hbalance]
      omega
  | error fault =>
    rw [hr] at hsays
    rw [openVacant_of_error slot hr]
    refine ⟨h.told, rfl, ?_⟩
    change fontBalance (s.journal ++ (Journal.told s.unheard ++ _)).notices =
      s.live.countP (Instance.holds isEngine .shaper)
    simp only [Journal.notices_append, fontBalance_append, Journal.notices_told, h.unheard,
      hbalance]
    omega

theorem Spoken.turn {s : Session} (h : s.Spoken) (hk : s.Kept) {slot : String} {i : Instance}
    (hs : s.slot? slot = some i) (vertical : Bool) :
    (s.put slot (i.setVertical vertical)).Spoken := by
  refine ⟨?_, h.unheard, ?_⟩
  · intro j hj
    rcases List.mem_cons.mp hj with rfl | hj
    · obtain ⟨hshaper, hplatform⟩ := h.told i (mem_live_of_slot? hs)
      exact ⟨hshaper, hplatform⟩
    · exact h.told j (mem_live_of_clear hj)
  · have hcount := (live_perm hk.keys hs).countP_eq (Instance.holds isEngine .shaper)
    have hlive : (s.put slot (i.setVertical vertical)).live =
        i.setVertical vertical :: (s.clear slot).live := rfl
    rw [List.countP_cons] at hcount
    rw [hlive, List.countP_cons]
    exact h.balance.trans (congrArg _ hcount)

theorem Spoken.advance {s : Session} (h : s.Spoken) (hk : s.Kept) {step : Step}
    (hstep : step.Stock) : (s.advance step).1.Spoken := by
  cases step with
  | openInstance slot choice path faceIndex size =>
    exact (h.vacate hk slot).openVacant (s.slot?_vacate_self slot) hstep path faceIndex size
  | ask slot query =>
    simp only [Session.advance]
    split <;> exact h
  | setVertical slot vertical =>
    simp only [Session.advance]
    split
    · exact h.turn hk (by assumption) vertical
    · exact h
  | destroy slot =>
    simp only [Session.advance]
    split
    · exact h.vacate hk slot
    · exact h
  | drop slot =>
    simp only [Session.advance]
    split
    · exact h.vacate hk slot
    · exact h
  | write path content => exact h.outside _ _
  | overwrite path content beyond => exact (h.overlay _ _).outside _ _
  | remove path =>
    obtain ⟨views, hremoved⟩ := s.exists_advance_remove path
    rw [hremoved]
    exact h.outside _ _
  | count => exact h

theorem Spoken.run {s : Session} (h : s.Spoken) (hk : s.Kept) {steps : List Step}
    (hsteps : ∀ step ∈ steps, step.Stock) : (s.run steps).1.Spoken := by
  induction steps generalizing s with
  | nil => exact h
  | cons step rest ih =>
    exact ih (h.advance hk (hsteps step List.mem_cons_self)) (hk.advance step)
      fun later hm => hsteps later (List.mem_cons_of_mem _ hm)

theorem Spoken.finish {s : Session} (h : s.Spoken) (hk : s.Kept) : s.finish.Spoken := by
  unfold Session.finish
  generalize (s.slots.map (·.1)).mergeSort (fun a b => decide (a ≤ b)) = slots
  induction slots generalizing s with
  | nil => exact h
  | cons slot rest ih => exact ih (h.vacate hk slot) (hk.vacate slot)

/-- At every point of a session the handles that were acquired and not given back are those of the
live instances. An opening that fails leaves every difference as it was, none is given back twice,
and in the end all are given back. With stock backends the log agrees about the fonts of the
engine. -/
theorem run_balanced (tree : FileTree) (environment : Environment) (steps : List Step) :
    let s := ((Session.start tree environment).run steps).1
    s.Balanced ∧ s.finish.Balanced ∧ s.finish.live = [] ∧
    (∀ slot choice path faceIndex size fault,
      let before := s.vacate slot
      let after := (before.openVacant slot choice path faceIndex size).1
      (before.openVacant slot choice path faceIndex size).2 = .failed fault →
        after.live = before.live ∧
        (∀ kind part,
          after.journal.unreleased kind part = before.journal.unreleased kind part) ∧
        ∀ kind, after.journal.undiscarded kind = before.journal.undiscarded kind) ∧
    ((∀ step ∈ steps, step.Stock) →
      fontBalance s.journal.notices = s.live.countP (Instance.holds isEngine .shaper) ∧
      fontBalance s.finish.journal.notices = 0) := by
  have hstart := Kept.start tree environment
  have hkept := hstart.run steps
  refine ⟨hkept.balanced, hkept.finish.balanced, live_finish _, ?_, ?_⟩
  · intro slot choice path faceIndex size fault before after hfail
    have hbefore := (hkept.vacate slot).balanced
    have hafter := ((hkept.vacate slot).openVacant (slot?_vacate_self _ slot) choice path
      faceIndex size).balanced
    have hattempt : after = before.attempted (before.attempt choice path faceIndex size) :=
      openVacant_of_failed hfail
    have hlive : after.live = before.live := by
      rw [hattempt]
      rfl
    refine ⟨hlive, ?_, ?_⟩
    · intro kind part
      rw [hafter.unreleased, hbefore.unreleased, hlive]
    · intro kind
      rw [hafter.undiscarded, hbefore.undiscarded, hlive]
  · intro hstock
    have hspoken := (Spoken.start tree environment).run hstart hstock
    refine ⟨hspoken.balance, ?_⟩
    rw [(hspoken.finish hkept).balance, live_finish]
    rfl

end Session
end SizedFace
