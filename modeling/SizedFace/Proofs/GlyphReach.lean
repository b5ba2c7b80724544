import SizedFace.Proofs.Assembly
import SizedFace.Proofs.CharacterRange
import SizedFace.Proofs.FaceOpening
import SizedFace.Proofs.NameLookup

namespace SizedFace

open CharacterMap Sfnt

namespace CharacterMap

/-- A range of the subtable gives a code this glyph. -/
def Subtable.Gives (code glyph : Nat) : Subtable → Prop
  | .segments map => code < 0x10000 ∧ ∃ (i : Nat) (s : Segment), map.segments[i]? = some s ∧
      s.first ≤ code ∧ code ≤ s.last ∧ map.lookup i s.first code = some glyph
  | .groups map => ∃ (i : Nat) (g : Group), map.groups[i]? = some g ∧
      g.first ≤ code ∧ code ≤ g.last ∧ g.glyphOf code = glyph

/-- No range gives a glyph past so many, `.notdef` apart. -/
def KeepsTo (m : CharacterMap) (glyphCount : Nat) : Prop :=
  ∀ code glyph, m.subtable.Gives code glyph → glyph ≠ notdef → glyph < glyphCount

/-- A range that a search found holds the code. -/
theorem within_of_probe {first last code : Nat}
    (held : (if code < first then Ordering.lt else if last < code then .gt else .eq) = .eq) :
    first ≤ code ∧ code ≤ last := by
  split at held
  · cases held
  · split at held
    · cases held
    · omega

/-- What is looked up in a subtable is given by one of its ranges. -/
theorem gives_of_subtableGlyph? {m : CharacterMap} {code glyph : Nat}
    (looked : m.subtableGlyph? code = some glyph) : m.subtable.Gives code glyph := by
  obtain ⟨subtable, symbol, glyphCount⟩ := m
  cases subtable with
  | segments map =>
    simp only [subtableGlyph?, SegmentMap.glyph?] at looked
    split at looked
    · cases looked
    · rename_i short
      cases met : search (map.probe code) 0 map.segments.size with
      | none => simp [met] at looked
      | some i =>
        obtain ⟨-, -, hit⟩ := search_eq_some met
        obtain ⟨s, at_i, held⟩ := Option.map_eq_some_iff.1 hit
        obtain ⟨first_le, le_last⟩ := within_of_probe held
        simp only [met, at_i] at looked
        exact ⟨by omega, i, s, at_i, first_le, le_last, looked⟩
  | groups map =>
    simp only [subtableGlyph?, GroupMap.glyph?] at looked
    cases met : search (map.probe code) 0 map.groups.size with
    | none => simp [met] at looked
    | some i =>
      obtain ⟨-, -, hit⟩ := search_eq_some met
      obtain ⟨g, at_i, held⟩ := Option.map_eq_some_iff.1 hit
      obtain ⟨first_le, le_last⟩ := within_of_probe held
      simp only [met, at_i, Option.map_some, Option.some.injEq] at looked
      exact ⟨i, g, at_i, first_le, le_last, looked⟩

/-- In an orderly map, all that a range gives is looked up. -/
theorem subtableGlyph?_of_gives {m : CharacterMap} (orderly : m.Orderly) {code glyph : Nat}
    (gives : m.subtable.Gives code glyph) : m.subtableGlyph? code = some glyph := by
  obtain ⟨subtable, symbol, glyphCount⟩ := m
  cases subtable with
  | segments map => exact (SegmentMap.glyph?_eq_some orderly).2 gives
  | groups map => exact (GroupMap.glyph?_eq_some orderly).2 gives

/-- The glyph of a code is one that a range gives, to this code or to the one it stands for. -/
theorem gives_of_glyph? {m : CharacterMap} {code glyph : Nat}
    (looked : m.glyph? code = some glyph) :
    ∃ own, m.subtable.Gives own glyph := by
  unfold glyph? at looked
  cases direct : m.subtableGlyph? code with
  | some found =>
    rw [direct] at looked
    obtain rfl := Option.some.inj looked
    exact ⟨code, gives_of_subtableGlyph? direct⟩
  | none =>
    rw [direct] at looked
    simp only at looked
    split at looked
    · exact ⟨code + 0xF000, gives_of_subtableGlyph? looked⟩
    · cases looked

end CharacterMap

namespace Sfnt.Face

variable {face : Face}

/-- All characters lead to glyphs that the face counts. -/
def MapsInside (face : Face) : Prop :=
  ∀ code glyph, face.mapChar code = some glyph → glyph < face.glyphCount

theorem mapsInside_of_keepsTo {map : CharacterMap} (has : face.characterMap? = some map)
    (keeps : map.KeepsTo face.glyphCount) : face.MapsInside := by
  intro code glyph mapped
  obtain ⟨own, same, looked, real⟩ := mapChar_eq_some.1 mapped
  rw [has] at same
  cases same
  obtain ⟨held, gives⟩ := gives_of_glyph? looked
  exact keeps held glyph gives real

theorem keepsTo_of_mapsInside {map : CharacterMap} (has : face.characterMap? = some map)
    (orderly : map.Orderly) (inside : face.MapsInside) : map.KeepsTo face.glyphCount := by
  intro code glyph gives real
  have direct := subtableGlyph?_of_gives orderly gives
  have looked : map.glyph? code = some glyph := by simp only [glyph?, direct]
  apply inside code glyph
  exact mapChar_eq_some.2 ⟨map, has, looked, real⟩

end Sfnt.Face

/-- An instance shows a face: it asks this face, and has the same count of glyphs. -/
structure Instance.Shows (i : Instance) (face : Face) : Prop where
  asks : i.face.value = face.toOutlineFace
  counts : i.glyphCount = face.glyphCount

namespace Instance

variable {i : Instance} {face : Face}

theorem Built.shows {o : Options} {tree : FileTree} {r : Request} (built : i.Built o tree r)
    (outline : o.outline = outlines) :
    ∃ companion face, (Face.ofData i.data.bytes companion i.faceIndex).1 = .ok face ∧
      i.Shows face := by
  have opened := built.opened
  rw [outline] at opened
  obtain ⟨d, head, read, same⟩ := Face.eq_ofDirectory_of_openFace opened
  refine ⟨i.companion.map (·.bytes), Face.ofDirectory (i.companion.map (·.bytes)) (d, head), ?_,
    same, ?_⟩
  · rw [Face.ofData_eq, built.faceIndex, read]
    rfl
  · rw [built.glyphCount, same]
    rfl

namespace Shows

theorem mapName (h : i.Shows face) (name : String) :
    i.mapName name = notdef ∨ i.hasGlyph (i.mapName name) = true := by
  have looks : i.mapName name = (face.glyphByName name).getD notdef := by
    rw [Instance.mapName, h.asks]
    rfl
  cases found : face.glyphByName name with
  | none =>
    left
    rw [looks, found]
    rfl
  | some glyph =>
    right
    have inside := (Face.glyphByName_eq_some.1 found).2.1
    rw [looks, found, Option.getD_some, hasGlyph, h.counts]
    exact decide_eq_true inside

/-- A look-up by character always ends so exactly when the face maps all characters inside. -/
theorem mapChar_iff (h : i.Shows face) :
    (∀ code, i.mapChar code = notdef ∨ i.hasGlyph (i.mapChar code) = true) ↔ face.MapsInside := by
  have looks (code : Nat) : i.mapChar code = (face.mapChar code).getD notdef := by
    rw [Instance.mapChar, h.asks]
    rfl
  constructor
  · intro ends code glyph mapped
    have real : glyph ≠ notdef := by
      obtain ⟨_, _, _, real⟩ := Face.mapChar_eq_some.1 mapped
      exact real
    have same : i.mapChar code = glyph := by rw [looks, mapped, Option.getD_some]
    rcases ends code with none | inside
    · exact absurd (same.symm.trans none) real
    · rw [same, hasGlyph, h.counts] at inside
      exact of_decide_eq_true inside
  · intro inside code
    cases mapped : face.mapChar code with
    | none =>
      left
      rw [looks, mapped]
      rfl
    | some glyph =>
      right
      rw [looks, mapped, Option.getD_some, hasGlyph, h.counts]
      exact decide_eq_true (inside code glyph mapped)

end Shows

/-- A glyph that the instance does not count has no name and no extent. -/
structure Blank (i : Instance) (glyph : Nat) : Prop where
  name : i.glyphName glyph = none
  width : i.glyphWidth glyph = .zero
  bounds : i.glyphBounds glyph = .zero

theorem blank_of_uncounted {glyph : Nat} (uncounted : i.hasGlyph glyph = false) :
    i.Blank glyph := by
  refine ⟨?_, ?_, ?_⟩
  · simp [glyphName, uncounted]
  · simp [glyphWidth, uncounted]
  · simp [glyphBounds, uncounted]

end Instance

/-- By name a face leads to its own glyphs only, and by character never to `.notdef`; by character
it leads to its own glyphs only where all ranges of its map keep to them, and in an orderly map only
if they do. The same holds of an instance that shows the face, and where it leads past its glyphs,
it answers for them as for none. -/
theorem lookups_reach (face : Face) :
    (∀ name glyph, face.glyphByName name = some glyph → glyph < face.glyphCount) ∧
    (∀ code glyph, face.mapChar code = some glyph → 0 < glyph) ∧
    (face.characterMap? = none → face.MapsInside) ∧
    (∀ map, face.characterMap? = some map →
      (map.KeepsTo face.glyphCount → face.MapsInside) ∧
      (map.Orderly → (face.MapsInside ↔ map.KeepsTo face.glyphCount))) ∧
    ∀ (o : Options) (tree : FileTree) (r : Request) (i : Instance), o.outline = outlines →
      (o.openInstance tree r).1 = .ok i → ∃ companion shown,
        (Face.ofData i.data.bytes companion i.faceIndex).1 = .ok shown ∧ i.Shows shown ∧
        (∀ name, i.mapName name = notdef ∨ i.hasGlyph (i.mapName name) = true) ∧
        ((∀ code, i.mapChar code = notdef ∨ i.hasGlyph (i.mapChar code) = true) ↔
          shown.MapsInside) ∧
        ∀ glyph, i.hasGlyph glyph = false → i.Blank glyph := by
  refine ⟨?_, ?_, ?_, ?_, ?_⟩
  · intro name glyph found
    exact (Face.glyphByName_eq_some.1 found).2.1
  · intro code glyph mapped
    obtain ⟨_, _, _, real⟩ := Face.mapChar_eq_some.1 mapped
    exact Nat.pos_of_ne_zero real
  · intro none code glyph mapped
    obtain ⟨map, has, -⟩ := Face.mapChar_eq_some.1 mapped
    rw [none] at has
    cases has
  · intro map has
    refine ⟨Face.mapsInside_of_keepsTo has, fun orderly => ?_⟩
    exact ⟨Face.keepsTo_of_mapsInside has orderly, Face.mapsInside_of_keepsTo has⟩
  · intro o tree r i outline opened
    obtain ⟨companion, shown, read, shows⟩ :=
      (Options.built_of_openInstance opened).shows outline
    refine ⟨companion, shown, read, shows, shows.mapName, shows.mapChar_iff, ?_⟩
    intro glyph uncounted
    exact Instance.blank_of_uncounted uncounted

/-- A group leads to its glyph, and only the list of codes minds how many glyphs there are. -/
example :
    let map : CharacterMap := ⟨.groups ⟨#[⟨0x41, 0x41, 5⟩]⟩, false, 2⟩
    map.glyph? 0x41 = some 5 ∧ map.codes = [] := by
  decide +kernel

end SizedFace
