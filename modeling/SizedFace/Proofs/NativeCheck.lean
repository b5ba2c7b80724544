import SizedFace.Platform.NativeFont
import SizedFace.Proofs.FaceOpening
import SizedFace.Proofs.Opening

namespace SizedFace

open Sfnt

namespace Platform

/-- Every version that a face is read with is a signature of the system. -/
theorem mem_signatures {version : Nat} (known : version ∈ versions) :
    Tag.ofNat version ∈ signatures := by
  simp only [versions, List.mem_cons, List.not_mem_nil, or_false] at known
  rcases known with rfl | rfl | rfl <;> decide

/-- The check of data from which a face was read sees collections only. -/
theorem check_of_openDirectory {data : Bytes} {index : Nat} {opened : Directory × Head}
    (read : openDirectory data index = .ok opened) :
    check data index =
      if data.u32? 0 = some Tag.ttcf.toNat then .error .collection else .ok () := by
  obtain ⟨d, head⟩ := opened
  obtain ⟨place, begins, rfl, ⟨⟨version, known, first⟩, -, fits, -⟩, -⟩ :=
    stands_of_openDirectory read
  cases begins with
  | alone single index_zero =>
    have whole : ¬ d.file.size < 12 := by omega
    have signed := mem_signatures known
    have other : version ≠ Tag.ttcf.toNat := by
      rintro rfl
      revert known
      decide
    simp [check, whole, first, signed, index_zero, other]
  | listed collection within entry =>
    have whole : ¬ d.file.size < 12 := by
      have := collection.fits
      omega
    have unsigned : Tag.ofNat Tag.ttcf.toNat ∉ signatures := by decide
    have own : Tag.ofNat Tag.ttcf.toNat = Tag.ttcf := by decide
    rw [own] at unsigned
    simp [check, whole, collection.signature, own, unsigned]

/-- The refusals that data with a face never meets. -/
inductive Refusal.Idle : Refusal → Prop where
  | tooSmall : Idle .tooSmall
  | signature (tag : Tag) : Idle (.signature tag)
  | faceIndex (index : Nat) : Idle (.faceIndex index)

theorem take_toList_append {n : Nat} {text : String} (more : String)
    (long : n ≤ text.toList.length) : (text ++ more).toList.take n = text.toList.take n := by
  rw [String.toList_append, List.take_append_of_le_length long]

theorem Refusal.Idle.take_reason {refusal : Refusal} (idle : refusal.Idle) :
    refusal.reason.toList.take 6 ∈ ["font d".toList, "unreco".toList, "face i".toList] := by
  cases idle with
  | tooSmall => decide
  | signature tag =>
    have text : (Refusal.signature tag).reason =
      "unrecognized sfnt signature " ++ signatureText tag := rfl
    rw [text, take_toList_append _ (by decide)]
    decide
  | faceIndex index =>
    have text : (Refusal.faceIndex index).reason =
        "face index " ++ (toString index ++ " requested from a single-face font") :=
      String.append_assoc ..
    rw [text, take_toList_append _ (by decide)]
    decide

/-- The refusals that are left do not read like those either. -/
theorem Refusal.Idle.reason_ne {refusal : Refusal} (idle : refusal.Idle) {other : Refusal}
    (left : other ∈ [.collection, .noProvider, .noFont]) : other.reason ≠ refusal.reason := by
  have lead := idle.take_reason
  intro same
  rw [← same] at lead
  revert left lead
  simp only [List.mem_cons, List.not_mem_nil, or_false]
  rintro (rfl | rfl | rfl) <;> decide

end Platform

namespace Options

variable {o : Options} {tree : FileTree} {r : Request}

/-- No stage before the platform's objects. -/
def ReachesPlatform (o : Options) (tree : FileTree) (r : Request) : Prop :=
  ∀ stage, stage ≠ .platform → o.objection? tree r stage = none

theorem eq_platform_of_objection {stage : Stage} {fault : BackendFault}
    (objects : o.objection? tree r stage = some (.platform fault)) : stage = .platform := by
  cases stage with
  | size =>
    simp only [objection?] at objects
    split at objects <;> cases objects
  | data => simp [objection?] at objects
  | outline => simp [objection?, outlineFault?, Option.bind_eq_some_iff] at objects
  | grid => simp [objection?, gridFault?, Option.bind_eq_some_iff] at objects
  | shaping => simp [objection?, shapeFault?, Option.bind_eq_some_iff] at objects
  | platform => rfl

theorem reachesPlatform_of_refused {fault : BackendFault}
    (refused : (o.openInstance tree r).1 = .error (.platform fault)) :
    o.ReachesPlatform tree r ∧
      ∃ data, o.data? tree r = some data ∧ o.attachFault? r data = some (.platform fault) := by
  rcases o.openInstance_cases tree r with ⟨-, i, opened⟩ | ⟨stage, why, stopped, objects, withdrawn⟩
  · rw [opened.result] at refused
    cases refused
  · rw [withdrawn.result] at refused
    cases refused
    obtain rfl := eq_platform_of_objection objects
    refine ⟨?_, Option.bind_eq_some_iff.1 objects⟩
    have split : Stage.all = [.size, .data, .outline, .grid, .shaping] ++ [.platform] := rfl
    rw [stopped?, split, List.find?_append] at stopped
    intro stage differs
    cases found : [Stage.size, .data, .outline, .grid, .shaping].find?
        fun stage => (o.objection? tree r stage).isSome with
    | some early =>
      rw [found] at stopped
      obtain rfl : early = .platform := Option.some.inj stopped
      exact absurd (List.mem_of_find?_eq_some found) (by decide)
    | none =>
      have before : stage ∈ [Stage.size, .data, .outline, .grid, .shaping] := by
        revert differs
        cases stage <;> decide
      simpa using List.find?_eq_none.1 found stage before

/-- What reaches the platform has a face that the outlines were read from. -/
theorem ReachesPlatform.openDirectory {data : FontData} (reached : o.ReachesPlatform tree r)
    (outline : o.outline = Sfnt.outlines) (loaded : o.data? tree r = some data) :
    ∃ opened, Sfnt.openDirectory data.bytes r.faceIndex = .ok opened := by
  have silent := reached .outline (by decide)
  cases opened : Sfnt.openDirectory data.bytes r.faceIndex with
  | ok directory => exact ⟨directory, rfl⟩
  | error fault =>
    simp [objection?, loaded, outlineFault?, outline, Sfnt.outlines, Face.ofData_eq, opened,
      Except.map, faultOf] at silent

end Options

namespace Platform

/-- What is refused of data that a face was read from: a collection, and what the system itself has
something against. -/
def possible (system : System) (data : Bytes) : Option Refusal :=
  if data.u32? 0 = some Tag.ttcf.toNat then some .collection else system.refusal? data

theorem attachFault?_of_openDirectory {o : Options} {system : System}
    (platform : o.platform = some (native system)) {r : Request} {data : FontData}
    {opened : Directory × Head} (read : openDirectory data.bytes r.faceIndex = .ok opened) :
    o.attachFault? r data = (possible system data.bytes).map fun refusal =>
      .platform ⟨(native system).name, refusal.reason⟩ := by
  simp only [Options.attachFault?, platform, Option.bind_some, native, check_of_openDirectory read,
    possible]
  by_cases collection : data.bytes.u32? 0 = some Tag.ttcf.toNat
  · simp only [collection, if_true]
    rfl
  · simp only [collection, if_false]
    cases system.refusal? data.bytes <;> rfl

theorem mem_of_possible {system : System} {data : Bytes} {refusal : Refusal}
    (left : possible system data = some refusal) :
    refusal ∈ [.collection, .noProvider, .noFont] := by
  unfold possible System.refusal? at left
  repeat' split at left
  all_goals cases left
  all_goals decide

/-- The check agrees with the outlines: data that a face was read from passes unless it begins as a
collection, and then it is refused as one. So nothing that reaches the platform is refused for its
size, for its signature or for its index. -/
theorem check_agrees :
    (∀ data companion index face, (Face.ofData data companion index).1 = .ok face →
      (check data index = .ok () ↔ data.u32? 0 ≠ some Tag.ttcf.toNat) ∧
      (data.u32? 0 = some Tag.ttcf.toNat → check data index = .error .collection)) ∧
    (∀ (o : Options) (tree : FileTree) (r : Request) (data : FontData),
      o.outline = Sfnt.outlines → o.ReachesPlatform tree r → o.data? tree r = some data →
      ∀ refusal : Refusal, refusal.Idle → check data.bytes r.faceIndex ≠ .error refusal) ∧
    ∀ (o : Options) (tree : FileTree) (r : Request) (fault : BackendFault) (system : System),
      o.outline = Sfnt.outlines → o.platform = some (native system) →
      (o.openInstance tree r).1 = .error (.platform fault) →
      ∃ data cause, o.data? tree r = some data ∧ possible system data.bytes = some cause ∧
        fault.reason = cause.reason ∧
        ∀ refusal : Refusal, refusal.Idle → fault.reason ≠ refusal.reason := by
  refine ⟨?_, ?_, ?_⟩
  · intro data companion index face opened
    rw [Face.ofData_eq] at opened
    cases read : openDirectory data index with
    | error fault =>
      rw [read] at opened
      cases opened
    | ok directory =>
      rw [check_of_openDirectory read]
      by_cases collection : data.u32? 0 = some Tag.ttcf.toNat <;> simp [collection]
  · intro o tree r data outline reached loaded refusal idle
    obtain ⟨opened, read⟩ := reached.openDirectory outline loaded
    rw [check_of_openDirectory read]
    cases idle <;> split <;> simp
  · intro o tree r fault system outline platform refused
    obtain ⟨reached, data, loaded, objects⟩ := Options.reachesPlatform_of_refused refused
    obtain ⟨opened, read⟩ := reached.openDirectory outline loaded
    rw [attachFault?_of_openDirectory platform read] at objects
    obtain ⟨cause, left, same⟩ := Option.map_eq_some_iff.1 objects
    cases same
    exact ⟨data, cause, loaded, left, rfl,
      fun refusal idle => idle.reason_ne (mem_of_possible left)⟩

end Platform
end SizedFace
