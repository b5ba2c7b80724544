import Mathlib.Data.Nat.Find
import SizedFace.Sfnt.Face

namespace SizedFace

open Sfnt

/-- In a list that ascends in its keys, what a search finds is the least key it could find. -/
theorem find?_key_eq_some {β : Type} {entries : List (Nat × β)} {p : Nat × β → Bool} {key : Nat}
    (ascending : entries.Pairwise fun a b => a.1 < b.1) :
    (entries.find? p).map (·.1) = some key ↔
      (∃ x, (key, x) ∈ entries ∧ p (key, x)) ∧ ∀ e ∈ entries, p e → key ≤ e.1 := by
  induction entries with
  | nil => simp
  | cons e rest ih =>
    obtain ⟨above, ascending⟩ := List.pairwise_cons.1 ascending
    specialize ih ascending
    by_cases hit : p e
    · rw [List.find?_cons_of_pos hit]
      simp only [Option.map_some, Option.some.injEq]
      constructor
      · rintro rfl
        refine ⟨⟨e.2, List.mem_cons_self, hit⟩, fun other mem _ => ?_⟩
        rcases List.mem_cons.1 mem with rfl | mem
        · exact Nat.le_refl _
        · exact Nat.le_of_lt (above other mem)
      · intro held
        obtain ⟨⟨x, mem, -⟩, least⟩ := held
        have least := least e List.mem_cons_self hit
        rcases List.mem_cons.1 mem with same | mem
        · rw [← same]
        · have := above _ mem
          omega
    · rw [List.find?_cons_of_neg hit, ih]
      constructor
      · intro held
        obtain ⟨⟨x, mem, found⟩, least⟩ := held
        refine ⟨⟨x, List.mem_cons_of_mem e mem, found⟩, fun other mem found => ?_⟩
        rcases List.mem_cons.1 mem with rfl | mem
        · exact absurd found hit
        · exact least other mem found
      · intro held
        obtain ⟨⟨x, mem, found⟩, least⟩ := held
        rcases List.mem_cons.1 mem with rfl | mem
        · exact absurd found hit
        · exact ⟨⟨x, mem, found⟩, fun other mem => least other (List.mem_cons_of_mem e mem)⟩

namespace Cff.Charset

/-- Once ranges are used up they stay so. -/
theorem inRanges_none_of_le {ranges : List (Nat × Nat)} {near far : Nat} (le : near ≤ far)
    (done : inRanges near ranges = none) : inRanges far ranges = none := by
  induction ranges generalizing near far with
  | nil => rfl
  | cons range rest ih =>
    obtain ⟨first, left⟩ := range
    simp only [inRanges] at done ⊢
    by_cases h : near ≤ left
    · simp [h] at done
    · rw [if_neg h] at done
      rw [if_neg (by omega)]
      exact ih (by omega) done

/-- No rule names a glyph after one it leaves out. -/
theorem string?_none_of_le {set : Charset} {near far : Nat} (le : near ≤ far)
    (done : set.string? near = none) : set.string? far = none := by
  by_cases short : set.glyphCount ≤ far
  · simp [string?, short]
  · have within : ¬ set.glyphCount ≤ near := by omega
    simp only [string?, short, within, if_false] at done ⊢
    cases rule : set.rule with
    | plain =>
      simp only [rule] at done ⊢
      grind
    | row strings =>
      simp only [rule, Array.getElem?_eq_none_iff] at done ⊢
      omega
    | stored strings =>
      simp only [rule] at done ⊢
      grind
    | ranges ranges =>
      simp only [rule] at done ⊢
      by_cases zero : near = 0
      · simp [zero] at done
      · rw [if_neg zero] at done
        rw [if_neg (by omega)]
        exact inRanges_none_of_le (by omega) done

/-- The listing stops at the first glyph without a string, and so leaves out none that has one. -/
theorem mem_entriesFrom {set : Charset} {start n glyph string : Nat} :
    (glyph, string) ∈ set.entriesFrom start n ↔
      start ≤ glyph ∧ glyph < start + n ∧ set.string? glyph = some string := by
  induction n generalizing start with
  | zero =>
    simp only [entriesFrom, List.not_mem_nil, false_iff]
    omega
  | succ n ih =>
    cases named : set.string? start with
    | none =>
      simp only [entriesFrom, named, List.not_mem_nil, false_iff]
      intro held
      obtain ⟨le, -, has⟩ := held
      rw [string?_none_of_le le named] at has
      cases has
    | some first =>
      simp only [entriesFrom, named, List.mem_cons, Prod.mk.injEq, ih]
      constructor
      · intro held
        rcases held with ⟨rfl, rfl⟩ | ⟨le, lt, has⟩
        · exact ⟨Nat.le_refl _, by omega, named⟩
        · exact ⟨by omega, by omega, has⟩
      · intro held
        obtain ⟨le, lt, has⟩ := held
        by_cases same : glyph = start
        · subst same
          rw [named] at has
          exact .inl ⟨rfl, (Option.some.inj has).symm⟩
        · exact .inr ⟨by omega, by omega, has⟩

theorem mem_entries {set : Charset} {glyph string : Nat} :
    (glyph, string) ∈ set.entries ↔ set.string? glyph = some string := by
  simp only [entries, mem_entriesFrom, Nat.zero_le, true_and, Nat.zero_add, and_iff_right_iff_imp]
  intro has
  by_cases short : set.glyphCount ≤ glyph
  · simp [string?, short] at has
  · omega

theorem entriesFrom_ascending (set : Charset) (start n : Nat) :
    (set.entriesFrom start n).Pairwise fun a b => a.1 < b.1 := by
  induction n generalizing start with
  | zero => exact .nil
  | succ n ih =>
    cases named : set.string? start with
    | none =>
      simp only [entriesFrom, named]
      exact .nil
    | some string =>
      simp only [entriesFrom, named]
      refine .cons (fun entry mem => ?_) (ih (start + 1))
      have := (mem_entriesFrom.1 mem).1
      omega

end Cff.Charset

namespace GlyphNames

/-- The bytes that a source stores as the name of a glyph it counts. -/
def stored? (names : GlyphNames) (glyph : Nat) : Option (List UInt8) :=
  if names.glyphCount ≤ glyph then none
  else match names with
    | .post _ table => postName? table glyph
    | .charset table set => (set.string? glyph).bind fun string => table.string? string

theorem stored?_post_eq_some {count glyph : Nat} {table : Bytes} {bytes : List UInt8} :
    (post count table).stored? glyph = some bytes ↔
      glyph < count ∧ postName? table glyph = some bytes := by
  unfold stored?
  split
  · rename_i past
    simp only [glyphCount] at past
    simp only [reduceCtorEq, false_iff]
    omega
  · rename_i within
    simp only [glyphCount] at within
    exact (and_iff_right (by omega)).symm

theorem stored?_charset_eq_some {table : Cff.Table} {set : Cff.Charset} {glyph : Nat}
    {bytes : List UInt8} :
    (charset table set).stored? glyph = some bytes ↔
      ∃ string, set.string? glyph = some string ∧ table.string? string = some bytes := by
  unfold stored?
  split
  · rename_i past
    simp only [glyphCount] at past
    simp [Cff.Charset.string?, past]
  · exact Option.bind_eq_some_iff

theorem name?_eq_some {names : GlyphNames} {glyph : Nat} {name : String} :
    names.name? glyph = some name ↔
      ∃ bytes, names.stored? glyph = some bytes ∧ ofBytes? bytes = some name := by
  rw [← Option.bind_eq_some_iff]
  unfold name? stored?
  split
  · rfl
  · cases names <;> rfl

theorem ofBytes?_ne_empty (bytes : List UInt8) : ofBytes? bytes ≠ some "" := by
  intro h
  simp only [ofBytes?, Option.bind_eq_bind, Option.bind_eq_some_iff] at h
  obtain ⟨_, _, name, _, h⟩ := h
  by_cases empty : name.isEmpty
  · simp [empty] at h
  · rw [if_neg empty] at h
    cases h
    exact empty rfl

theorem entries_ascending (names : GlyphNames) :
    names.entries.Pairwise fun a b => a.1 < b.1 := by
  cases names with
  | post count table =>
    exact List.pairwise_map.2 List.pairwise_lt_range
  | charset table set =>
    exact List.pairwise_map.2 (set.entriesFrom_ascending 0 set.glyphCount)

/-- The listing and the look-up by glyph give the same names to the same glyphs. -/
theorem mem_entries {names : GlyphNames} {glyph : Nat} {name : String} :
    (glyph, some name) ∈ names.entries ↔ names.name? glyph = some name := by
  rw [name?_eq_some]
  cases names with
  | post count table =>
    simp only [entries, List.mem_map, List.mem_range, Prod.mk.injEq, stored?_post_eq_some]
    constructor
    · intro held
      obtain ⟨other, lt, rfl, named⟩ := held
      obtain ⟨bytes, has, named⟩ := Option.bind_eq_some_iff.1 named
      exact ⟨bytes, ⟨lt, has⟩, named⟩
    · intro held
      obtain ⟨bytes, ⟨lt, has⟩, named⟩ := held
      exact ⟨glyph, lt, rfl, Option.bind_eq_some_iff.2 ⟨bytes, has, named⟩⟩
  | charset table set =>
    simp only [entries, List.mem_map, Prod.mk.injEq, Prod.exists, stored?_charset_eq_some,
      Cff.Charset.mem_entries]
    constructor
    · intro held
      obtain ⟨other, string, has, rfl, named⟩ := held
      obtain ⟨bytes, stored, named⟩ := Option.bind_eq_some_iff.1 named
      exact ⟨bytes, ⟨string, has, stored⟩, named⟩
    · intro held
      obtain ⟨bytes, ⟨string, has, stored⟩, named⟩ := held
      exact ⟨glyph, string, has, rfl, Option.bind_eq_some_iff.2 ⟨bytes, stored, named⟩⟩

theorem glyph?_eq_some {names : GlyphNames} {name : String} {glyph : Nat} :
    names.glyph? name = some glyph ↔
      names.name? glyph = some name ∧ ∀ other < glyph, names.name? other ≠ some name := by
  unfold glyph?
  rw [find?_key_eq_some names.entries_ascending]
  simp only [decide_eq_true_eq, exists_eq_right, mem_entries]
  refine and_congr_right fun _ => ?_
  constructor
  · intro least other lt named
    have := least (other, some name) (mem_entries.2 named) rfl
    omega
  · rintro none_below ⟨other, _⟩ mem rfl
    refine Nat.le_of_not_lt fun below => ?_
    exact none_below other below (mem_entries.1 mem)

end GlyphNames

namespace Sfnt

/-- The PostScript table of a face, when it names glyphs at all. -/
def Directory.namingTable? (d : Directory) : Option Bytes :=
  (d.postscript?.map (·.2)).filter fun table => GlyphNames.postCount table ≠ 0

namespace Directory

theorem fromCharset_eq_some {d : Directory} {names : GlyphNames} :
    GlyphNames.ofDirectory?.fromCharset d = some names ↔
      ∃ cff table set, d.table? .cff = some cff ∧ Cff.Table.readFirst? cff = some table ∧
        table.charset? = some set ∧ names = .charset table set := by
  unfold GlyphNames.ofDirectory?.fromCharset
  constructor
  · intro source
    obtain ⟨cff, compact, source⟩ := Option.bind_eq_some_iff.1 source
    obtain ⟨table, read, source⟩ := Option.bind_eq_some_iff.1 source
    obtain ⟨set, charset, source⟩ := Option.bind_eq_some_iff.1 source
    exact ⟨cff, table, set, compact, read, charset, (Option.some.inj source).symm⟩
  · intro held
    obtain ⟨cff, table, set, compact, read, charset, rfl⟩ := held
    simp [compact, read, charset]

theorem ofDirectory?_of_naming {d : Directory} {table : Bytes}
    (naming : d.namingTable? = some table) :
    GlyphNames.ofDirectory? d = some (.post d.glyphCount table) := by
  obtain ⟨has, names⟩ := Option.filter_eq_some_iff.1 naming
  obtain ⟨⟨angle, _⟩, read, rfl⟩ := Option.map_eq_some_iff.1 has
  unfold GlyphNames.ofDirectory?
  rw [read]
  exact if_pos (by simpa using names)

theorem ofDirectory?_of_unnamed {d : Directory} (naming : d.namingTable? = none) :
    GlyphNames.ofDirectory? d = GlyphNames.ofDirectory?.fromCharset d := by
  unfold GlyphNames.ofDirectory?
  cases read : d.postscript? with
  | none => rfl
  | some post =>
    obtain ⟨angle, table⟩ := post
    simp only [namingTable?, read, Option.map_some, Option.filter_eq_none_iff] at naming
    exact if_neg (by simpa using naming table rfl)

end Directory

namespace Face

/-- The face stores bytes as the name of a glyph: in its PostScript table if that names glyphs, and
only else by the charset of its compact outlines. -/
inductive Stores (face : Face) (glyph : Nat) (bytes : List UInt8) : Prop where
  | post {table : Bytes} (naming : face.directory.namingTable? = some table)
      (counted : glyph < face.directory.glyphCount)
      (named : GlyphNames.postName? table glyph = some bytes)
  | charset {cff : Bytes} {table : Cff.Table} {set : Cff.Charset} {string : Nat}
      (naming : face.directory.namingTable? = none)
      (compact : face.directory.table? .cff = some cff)
      (read : Cff.Table.readFirst? cff = some table) (charset : table.charset? = some set)
      (named : set.string? glyph = some string) (text : table.string? string = some bytes)

theorem stores_iff {face : Face} {glyph : Nat} {bytes : List UInt8} :
    face.Stores glyph bytes ↔
      ∃ names, GlyphNames.ofDirectory? face.directory = some names ∧
        names.stored? glyph = some bytes := by
  constructor
  · intro held
    rcases held with ⟨naming, counted, named⟩ | ⟨naming, compact, read, charset, named, text⟩
    · exact ⟨_, Directory.ofDirectory?_of_naming naming,
        GlyphNames.stored?_post_eq_some.2 ⟨counted, named⟩⟩
    · refine ⟨_, ?_, GlyphNames.stored?_charset_eq_some.2 ⟨_, named, text⟩⟩
      rw [Directory.ofDirectory?_of_unnamed naming, Directory.fromCharset_eq_some]
      exact ⟨_, _, _, compact, read, charset, rfl⟩
  · intro held
    obtain ⟨names, source, has⟩ := held
    cases naming : face.directory.namingTable? with
    | some table =>
      rw [Directory.ofDirectory?_of_naming naming] at source
      obtain rfl := Option.some.inj source
      obtain ⟨counted, named⟩ := GlyphNames.stored?_post_eq_some.1 has
      exact .post naming counted named
    | none =>
      rw [Directory.ofDirectory?_of_unnamed naming, Directory.fromCharset_eq_some] at source
      obtain ⟨cff, table, set, compact, read, charset, rfl⟩ := source
      obtain ⟨string, named, text⟩ := GlyphNames.stored?_charset_eq_some.1 has
      exact .charset naming compact read charset named text

theorem glyphName_eq_some {face : Face} {glyph : Nat} {name : String} :
    face.glyphName glyph = some name ↔
      glyph < face.glyphCount ∧
        ∃ names, GlyphNames.ofDirectory? face.directory = some names ∧
          names.name? glyph = some name := by
  unfold glyphName
  split
  · simp only [reduceCtorEq, false_iff]
    omega
  · rw [Option.bind_eq_some_iff]
    exact (and_iff_right (by omega)).symm

theorem glyphByName_eq_some {face : Face} {glyph : Nat} {name : String} :
    face.glyphByName name = some glyph ↔
      name ≠ "" ∧ glyph < face.glyphCount ∧
        ∃ names, GlyphNames.ofDirectory? face.directory = some names ∧
          names.glyph? name = some glyph := by
  unfold glyphByName
  by_cases empty : name = ""
  · simp [empty]
  · have filled : ¬ name.isEmpty = true := by simpa using empty
    rw [if_neg filled]
    constructor
    · intro found
      obtain ⟨names, source, found⟩ := Option.bind_eq_some_iff.1 found
      obtain ⟨first, look, found⟩ := Option.bind_eq_some_iff.1 found
      split at found
      · cases found
      · obtain rfl := Option.some.inj found
        exact ⟨empty, by omega, names, source, look⟩
    · intro held
      obtain ⟨-, within, names, source, look⟩ := held
      have counted : ¬ face.glyphCount ≤ glyph := by omega
      simp [source, look, counted]

/-- A glyph is named by what the face stores for it, and by nothing else. -/
theorem glyphName_iff_stores {face : Face} {glyph : Nat} {name : String} :
    face.glyphName glyph = some name ↔
      glyph < face.glyphCount ∧
        ∃ bytes, face.Stores glyph bytes ∧ GlyphNames.ofBytes? bytes = some name := by
  rw [glyphName_eq_some]
  refine and_congr_right fun _ => ?_
  simp only [stores_iff, GlyphNames.name?_eq_some]
  constructor
  · intro held
    obtain ⟨names, source, bytes, has, text⟩ := held
    exact ⟨bytes, ⟨names, source, has⟩, text⟩
  · intro held
    obtain ⟨bytes, ⟨names, source, has⟩, text⟩ := held
    exact ⟨names, source, bytes, has, text⟩

theorem glyphName_ne_empty (face : Face) (glyph : Nat) : face.glyphName glyph ≠ some "" := by
  intro named
  obtain ⟨-, bytes, -, text⟩ := glyphName_iff_stores.1 named
  exact GlyphNames.ofBytes?_ne_empty bytes text

/-- A name leads to the least of the glyphs that have it. -/
theorem glyphByName_iff_least {face : Face} {glyph : Nat} {name : String} :
    face.glyphByName name = some glyph ↔
      name ≠ "" ∧ glyph < face.glyphCount ∧ face.glyphName glyph = some name ∧
        ∀ other < glyph, face.glyphName other ≠ some name := by
  rw [glyphByName_eq_some]
  refine and_congr_right fun _ => and_congr_right fun within => ?_
  constructor
  · intro held
    obtain ⟨names, source, look⟩ := held
    obtain ⟨named, none_below⟩ := GlyphNames.glyph?_eq_some.1 look
    refine ⟨glyphName_eq_some.2 ⟨within, names, source, named⟩, fun other below named => ?_⟩
    obtain ⟨-, others, same, named⟩ := glyphName_eq_some.1 named
    rw [source] at same
    cases same
    exact none_below other below named
  · intro held
    obtain ⟨named, none_below⟩ := held
    obtain ⟨-, names, source, named⟩ := glyphName_eq_some.1 named
    refine ⟨names, source, GlyphNames.glyph?_eq_some.2 ⟨named, fun other below named => ?_⟩⟩
    exact none_below other below (glyphName_eq_some.2 ⟨by omega, names, source, named⟩)

/-- The two ways between glyphs and names agree: a name leads to the first glyph that has it, and
the names are those the face stores. -/
theorem names_agree (face : Face) (glyph : Nat) (name : String) :
    (face.glyphByName name = some glyph ↔
      name ≠ "" ∧ glyph < face.glyphCount ∧ face.glyphName glyph = some name ∧
        ∀ other < glyph, face.glyphName other ≠ some name) ∧
    (face.glyphName glyph = some name →
      ∃ first ≤ glyph, face.glyphByName name = some first ∧ face.glyphName first = some name) ∧
    (face.glyphByName name = some glyph → face.glyphName glyph = some name) ∧
    (face.glyphName glyph = some name ↔
      glyph < face.glyphCount ∧
        ∃ bytes, face.Stores glyph bytes ∧ GlyphNames.ofBytes? bytes = some name) := by
  refine ⟨glyphByName_iff_least, fun named => ?_, fun found => ?_, glyphName_iff_stores⟩
  · have exists_named : ∃ first, face.glyphName first = some name := ⟨glyph, named⟩
    classical
    refine ⟨Nat.find exists_named, Nat.find_min' exists_named named, ?_, Nat.find_spec exists_named⟩
    refine glyphByName_iff_least.2 ⟨?_, ?_, Nat.find_spec exists_named,
      fun other below => Nat.find_min exists_named below⟩
    · rintro rfl
      exact glyphName_ne_empty face glyph named
    · exact (glyphName_iff_stores.1 (Nat.find_spec exists_named)).1
  · exact (glyphByName_iff_least.1 found).2.2.1

end Face
end Sfnt
end SizedFace
