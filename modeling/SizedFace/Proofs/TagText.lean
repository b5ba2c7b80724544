import Mathlib.Algebra.Ring.Nat
import Mathlib.Data.Set.Function
import Mathlib.Data.String.Basic
import SizedFace.Tag

namespace SizedFace.Tag

/-- ASCII's graphic characters, from the exclamation mark to the tilde. -/
def Graphic (b : UInt8) : Prop := 0x21 ≤ b.toNat ∧ b.toNat ≤ 0x7E

instance : DecidablePred Graphic := fun _ => inferInstanceAs (Decidable (_ ∧ _))

def Shown (b : UInt8) : Prop := Graphic b ∨ b.toNat = ' '.toNat

instance : DecidablePred Shown := fun _ => inferInstanceAs (Decidable (_ ∨ _))

/-- The characters that a text of bytes may hold, all of one byte. -/
def Visible (c : Char) : Prop := 0x20 ≤ c.toNat ∧ c.toNat ≤ 0x7E

/-- The characters of a row of bytes, as many as there are. -/
def showBytes (row : List UInt8) : List Char := row.flatMap showByte

/-- The characters that a byte shows as, each as a byte of its own. -/
def spelling (b : UInt8) : List UInt8 := (showByte b).map Char.toUInt8

theorem isPlain_iff {b : UInt8} : isPlain b = true ↔ 0x20 ≤ b.toNat ∧ b.toNat ≤ 0x7E := by
  simp [isPlain, UInt8.le_iff_toNat_le]

theorem isPlain_iff_shown {b : UInt8} : isPlain b = true ↔ Shown b := by
  have space : ' '.toNat = 0x20 := rfl
  rw [isPlain_iff]
  unfold Shown Graphic
  omega

theorem toNat_ofNat_toNat (b : UInt8) : (Char.ofNat b.toNat).toNat = b.toNat := by
  have small := b.toNat_lt
  have valid : b.toNat.isValidChar := .inl (by omega)
  unfold Char.ofNat
  rw [dif_pos valid]
  rfl

theorem toNat_toUInt8 (c : Char) : c.toUInt8.toNat = c.toNat % 256 := rfl

theorem toUInt8_ofNat_toNat (b : UInt8) : (Char.ofNat b.toNat).toUInt8 = b := by
  apply UInt8.toNat_inj.1
  rw [toNat_toUInt8, toNat_ofNat_toNat, Nat.mod_eq_of_lt b.toNat_lt]

theorem visible_digitChar : ∀ d < 16, Visible (Nat.digitChar d) := by
  unfold Visible
  decide

theorem digitChar_ne_backslash : ∀ d < 16, Nat.digitChar d ≠ '\\' := by decide

theorem digitChar_inj : ∀ d < 16, ∀ e < 16, Nat.digitChar d = Nat.digitChar e → d = e := by decide

theorem halves_lt (b : UInt8) : b.toNat / 16 < 16 ∧ b.toNat % 16 < 16 := by
  have small := b.toNat_lt
  omega

theorem showByte_plain {b : UInt8} (plain : isPlain b = true) :
    showByte b = [Char.ofNat b.toNat] := if_pos plain

theorem showByte_hidden {b : UInt8} (hidden : isPlain b = false) :
    showByte b = ['\\', 'x', Nat.digitChar (b.toNat / 16), Nat.digitChar (b.toNat % 16)] := by
  unfold showByte
  rw [if_neg (by simp [hidden]), Text.toList_hexPadded_two b.toNat_lt]

theorem length_showByte (b : UInt8) : (showByte b).length = if isPlain b then 1 else 4 := by
  cases plain : isPlain b with
  | true =>
    rw [showByte_plain plain]
    rfl
  | false =>
    rw [showByte_hidden plain]
    rfl

/-- A byte is escaped unless it is shown. The backslash is shown. -/
theorem showByte_eq_single_iff {b : UInt8} :
    showByte b = [Char.ofNat b.toNat] ↔ Shown b := by
  rw [← isPlain_iff_shown]
  constructor
  · intro single
    have length := length_showByte b
    rw [single] at length
    by_contra hidden
    simp [hidden] at length
  · exact showByte_plain

/-- Two bytes that are both escaped, or both not, end their texts at the same place. -/
theorem showByte_append_inj {a b : UInt8} {as bs : List Char} (alike : isPlain a = isPlain b)
    (same : showByte a ++ as = showByte b ++ bs) : a = b ∧ as = bs := by
  have length : (showByte a).length = (showByte b).length := by
    rw [length_showByte, length_showByte, alike]
  obtain ⟨first, rest⟩ := List.append_inj same length
  refine ⟨?_, rest⟩
  cases plain : isPlain b with
  | true =>
    rw [showByte_plain plain, showByte_plain (alike.trans plain)] at first
    have char : Char.ofNat a.toNat = Char.ofNat b.toNat := List.head_eq_of_cons_eq first
    rw [← toUInt8_ofNat_toNat a, char, toUInt8_ofNat_toNat]
  | false =>
    rw [showByte_hidden plain, showByte_hidden (alike.trans plain)] at first
    simp only [List.cons.injEq, true_and, and_true] at first
    have high := digitChar_inj _ (halves_lt a).1 _ (halves_lt b).1 first.1
    have low := digitChar_inj _ (halves_lt a).2 _ (halves_lt b).2 first.2
    apply UInt8.toNat_inj.1
    omega

theorem visible_of_mem_showByte {b : UInt8} {c : Char} (mem : c ∈ showByte b) : Visible c := by
  cases plain : isPlain b with
  | true =>
    rw [showByte_plain plain, List.mem_singleton] at mem
    subst c
    unfold Visible
    rw [toNat_ofNat_toNat]
    exact isPlain_iff.1 plain
  | false =>
    rw [showByte_hidden plain] at mem
    simp only [List.mem_cons, List.not_mem_nil, or_false] at mem
    rcases mem with rfl | rfl | rfl | rfl
    · exact ⟨by decide, by decide⟩
    · exact ⟨by decide, by decide⟩
    · exact visible_digitChar _ (halves_lt b).1
    · exact visible_digitChar _ (halves_lt b).2

theorem Visible.showByte_toUInt8 {c : Char} (visible : Visible c) :
    showByte c.toUInt8 = [c] := by
  obtain ⟨first, last⟩ := visible
  have own : c.toUInt8.toNat = c.toNat := by
    rw [toNat_toUInt8]
    omega
  have plain : isPlain c.toUInt8 = true := by
    rw [isPlain_iff, own]
    exact ⟨first, last⟩
  rw [showByte_plain plain, own, Char.ofNat_toNat]

theorem showBytes_cons (b : UInt8) (row : List UInt8) :
    showBytes (b :: row) = showByte b ++ showBytes row := List.flatMap_cons

theorem showBytes_append (row more : List UInt8) :
    showBytes (row ++ more) = showBytes row ++ showBytes more := List.flatMap_append

theorem showBytes_eq_nil {row : List UInt8} (empty : showBytes row = []) : row = [] := by
  cases row with
  | nil => rfl
  | cons b row =>
    have length := length_showByte b
    rw [showBytes_cons] at empty
    rw [(List.append_eq_nil_iff.1 empty).1] at length
    split at length <;> cases length

/-- A byte shows as its spelling does. -/
theorem showBytes_spelling (b : UInt8) : showBytes (spelling b) = showByte b := by
  have each (cs : List Char) (visible : ∀ c ∈ cs, Visible c) :
      showBytes (cs.map Char.toUInt8) = cs := by
    induction cs with
    | nil => rfl
    | cons c cs ih =>
      obtain ⟨first, others⟩ := List.forall_mem_cons.1 visible
      rw [List.map_cons, showBytes_cons, first.showByte_toUInt8, ih others]
      rfl
  apply each
  intro c mem
  exact visible_of_mem_showByte mem

theorem length_spelling {b : UInt8} (hidden : isPlain b = false) : (spelling b).length = 4 := by
  rw [spelling, List.length_map, length_showByte, hidden]
  rfl

/-- Only a backslash begins an escape, so other characters stand each for its own byte. -/
theorem exists_of_showBytes_append {row : List UInt8} {cs more : List Char}
    (other : '\\' ∉ cs) (shown : showBytes row = cs ++ more) :
    ∃ rest, row = cs.map Char.toUInt8 ++ rest ∧ showBytes rest = more := by
  induction cs generalizing row with
  | nil => exact ⟨row, rfl, shown⟩
  | cons c cs ih =>
    obtain ⟨first, others⟩ := List.ne_and_not_mem_of_not_mem_cons other
    cases row with
    | nil => cases shown
    | cons b row =>
      rw [showBytes_cons] at shown
      cases plain : isPlain b with
      | true =>
        rw [showByte_plain plain] at shown
        obtain ⟨rfl, tail⟩ := List.cons.inj shown
        obtain ⟨rest, rfl, after⟩ := ih others tail
        refine ⟨rest, ?_, after⟩
        rw [List.map_cons, toUInt8_ofNat_toNat, List.cons_append]
      | false =>
        rw [showByte_hidden plain] at shown
        exact absurd (List.cons.inj shown).1 first

/-- Where a text begins with an escape, the row has that byte or spells it out. -/
theorem escaped_or_spelled {row : List UInt8} {b : UInt8} {cs : List Char}
    (hidden : isPlain b = false) (shown : showBytes row = showByte b ++ cs) :
    ∃ rest, (row = b :: rest ∨ row = spelling b ++ rest) ∧ showBytes rest = cs := by
  cases row with
  | nil =>
    rw [showByte_hidden hidden] at shown
    cases shown
  | cons a row =>
    rw [showBytes_cons] at shown
    cases plain : isPlain a with
    | false =>
      obtain ⟨rfl, rest⟩ := showByte_append_inj (plain.trans hidden.symm) shown
      exact ⟨row, .inl rfl, rest⟩
    | true =>
      rw [showByte_plain plain, showByte_hidden hidden] at shown
      obtain ⟨backslash, tail⟩ := List.cons.inj shown
      have other : '\\' ∉ ['x', Nat.digitChar (b.toNat / 16), Nat.digitChar (b.toNat % 16)] := by
        have high := digitChar_ne_backslash _ (halves_lt b).1
        have low := digitChar_ne_backslash _ (halves_lt b).2
        simp [high.symm, low.symm]
      obtain ⟨rest, rfl, after⟩ := exists_of_showBytes_append other tail
      refine ⟨rest, .inr ?_, after⟩
      have own : a = '\\'.toUInt8 := by rw [← backslash, toUInt8_ofNat_toNat]
      rw [spelling, showByte_hidden hidden, own]
      rfl

/-- Two rows of the same bytes, but that each may spell some out where the other has them. -/
inductive Respelled : List UInt8 → List UInt8 → Prop
  | nil : Respelled [] []
  | cons (b : UInt8) {as bs : List UInt8} (rest : Respelled as bs) : Respelled (b :: as) (b :: bs)
  | left {b : UInt8} {as bs : List UInt8} (hidden : isPlain b = false) (rest : Respelled as bs) :
    Respelled (spelling b ++ as) (b :: bs)
  | right {b : UInt8} {as bs : List UInt8} (hidden : isPlain b = false) (rest : Respelled as bs) :
    Respelled (b :: as) (spelling b ++ bs)

theorem Respelled.showBytes_eq {as bs : List UInt8} (h : Respelled as bs) :
    showBytes as = showBytes bs := by
  induction h with
  | nil => rfl
  | cons b _ ih => rw [showBytes_cons, showBytes_cons, ih]
  | left _ _ ih => rw [showBytes_append, showBytes_spelling, showBytes_cons, ih]
  | right _ _ ih => rw [showBytes_append, showBytes_spelling, showBytes_cons, ih]

/-- Read from the front, both rows have one byte or one spells out what the other has. -/
theorem respelled_of_showBytes_eq {as bs : List UInt8} (same : showBytes as = showBytes bs) :
    Respelled as bs := by
  induction size : as.length using Nat.strong_induction_on generalizing as bs with
  | _ n ih =>
    cases as with
    | nil =>
      rw [showBytes_eq_nil same.symm]
      exact .nil
    | cons a as =>
      rw [List.length_cons] at size
      cases plain : isPlain a with
      | false =>
        obtain ⟨rest, begins, after⟩ := escaped_or_spelled plain same.symm
        have others := ih as.length (by omega) after.symm rfl
        rcases begins with rfl | rfl
        · exact .cons a others
        · exact .right plain others
      | true =>
        cases bs with
        | nil => cases showBytes_eq_nil same
        | cons b bs =>
          cases plain' : isPlain b with
          | true =>
            obtain ⟨rfl, after⟩ := showByte_append_inj (plain.trans plain'.symm) same
            exact .cons a (ih as.length (by omega) after rfl)
          | false =>
            obtain ⟨rest, begins | begins, after⟩ := escaped_or_spelled plain' same
            · obtain ⟨rfl, _⟩ := List.cons.inj begins
              rw [plain] at plain'
              cases plain'
            · have length := congrArg List.length begins
              rw [List.length_cons, List.length_append, length_spelling plain'] at length
              rw [begins]
              exact .left plain' (ih rest.length (by omega) after rfl)

theorem showBytes_eq_iff {as bs : List UInt8} :
    showBytes as = showBytes bs ↔ Respelled as bs :=
  ⟨respelled_of_showBytes_eq, Respelled.showBytes_eq⟩

/-- Each byte that is spelled out takes four places for one. -/
theorem Respelled.lengths {as bs : List UInt8} (h : Respelled as bs) :
    ∃ shared ahead behind, as.length = shared + 4 * ahead + behind ∧
      bs.length = shared + ahead + 4 * behind ∧ (ahead = 0 → behind = 0 → as = bs) := by
  induction h with
  | nil => exact ⟨0, 0, 0, rfl, rfl, fun _ _ => rfl⟩
  | cons b _ ih =>
    obtain ⟨shared, ahead, behind, first, second, same⟩ := ih
    refine ⟨shared + 1, ahead, behind, ?_, ?_, ?_⟩
    · rw [List.length_cons, first]
      omega
    · rw [List.length_cons, second]
      omega
    · intro none none'
      rw [same none none']
  | left hidden _ ih =>
    obtain ⟨shared, ahead, behind, first, second, _⟩ := ih
    refine ⟨shared, ahead + 1, behind, ?_, ?_, fun none => by cases none⟩
    · rw [List.length_append, length_spelling hidden, first]
      omega
    · rw [List.length_cons, second]
      omega
  | right hidden _ ih =>
    obtain ⟨shared, ahead, behind, first, second, _⟩ := ih
    refine ⟨shared, ahead, behind + 1, ?_, ?_, fun _ none => by cases none⟩
    · rw [List.length_cons, first]
      omega
    · rw [List.length_append, length_spelling hidden, second]
      omega

/-- Rows of one length spell out as many bytes on either side, and have room for it from five on. -/
theorem Respelled.eq_of_short {as bs : List UInt8} (h : Respelled as bs)
    (length : as.length = bs.length) (short : as.length ≤ 4) : as = bs := by
  obtain ⟨shared, ahead, behind, first, second, same⟩ := h.lengths
  have balanced : ahead = behind := by omega
  have none : ahead = 0 := by omega
  exact same none (balanced ▸ none)

theorem showBytes_swap_spelling (b : UInt8) (row : List UInt8) :
    showBytes (b :: (spelling b ++ row)) = showBytes (spelling b ++ b :: row) := by
  rw [showBytes_cons, showBytes_append, showBytes_append, showBytes_cons, showBytes_spelling]

/-- Rows of up to four bytes, and no longer ones, are told by what they show as. -/
theorem injOn_showBytes_iff {n : Nat} : Set.InjOn showBytes {row | row.length = n} ↔ n ≤ 4 := by
  constructor
  · intro inj
    by_contra long
    obtain ⟨m, rfl⟩ := Nat.exists_eq_add_of_lt (Nat.lt_of_not_le long)
    have four : (spelling 0).length = 4 := rfl
    have swap := showBytes_swap_spelling 0 (List.replicate m 0)
    have equal := inj (by simp [four]) (by simp [four]; omega) swap
    have first : (0 : UInt8) = '\\'.toUInt8 := List.head_eq_of_cons_eq equal
    cases first
  · rintro short as rfl bs length same
    exact (showBytes_eq_iff.1 same).eq_of_short length.symm short

example : showBytes [0, 0x5C, 0x78, 0x30, 0x30] = showBytes [0x5C, 0x78, 0x30, 0x30, 0] := by decide

theorem length_showBytes (row : List UInt8) :
    (showBytes row).length = row.length + 3 * row.countP fun b => ¬ Shown b := by
  induction row with
  | nil => rfl
  | cons b row ih =>
    rw [showBytes_cons, List.length_append, length_showByte, ih, List.length_cons,
      List.countP_cons]
    by_cases shown : Shown b
    · rw [if_pos (isPlain_iff_shown.2 shown), if_neg (by simp [shown])]
      omega
    · rw [if_neg (mt isPlain_iff_shown.1 shown), if_pos (by simp [shown])]
      omega

theorem visible_of_mem_showBytes {row : List UInt8} {c : Char} (mem : c ∈ showBytes row) :
    Visible c := by
  obtain ⟨b, _, mem⟩ := List.mem_flatMap.1 mem
  exact visible_of_mem_showByte mem

theorem utf8Len_of_visible {cs : List Char} (visible : ∀ c ∈ cs, Visible c) :
    String.utf8Len cs = cs.length := by
  induction cs with
  | nil => rfl
  | cons c cs ih =>
    obtain ⟨first, others⟩ := List.forall_mem_cons.1 visible
    have one : c.utf8Size = 1 := by
      have last : c.toNat ≤ 127 := Nat.le_succ_of_le first.2
      exact Char.utf8Size_eq_one_iff.2 last
    rw [String.utf8Len_cons, ih others, one, List.length_cons]

theorem toList_text (t : Tag) : t.text.toList = showBytes t.bytes := String.toList_ofList

theorem bytes_injective : Function.Injective bytes := by
  intro a b same
  cases a
  cases b
  simp only [bytes, List.cons.injEq, and_true] at same
  obtain ⟨rfl, rfl, rfl, rfl⟩ := same
  rfl

theorem text_injective : Function.Injective text := by
  intro a b same
  have shown : showBytes a.bytes = showBytes b.bytes := by
    rw [← toList_text, ← toList_text, same]
  apply bytes_injective
  exact injOn_showBytes_iff.2 (Nat.le_refl 4) rfl rfl shown

theorem describe_injective : Function.Injective describe := by
  intro a b same
  apply text_injective
  unfold describe at same
  rwa [String.append_left_inj, String.append_right_inj] at same

theorem length_text (t : Tag) :
    t.text.length = 4 + 3 * t.bytes.countP fun b => ¬ Shown b := by
  rw [← String.length_toList, toList_text, length_showBytes]
  rfl

theorem utf8ByteSize_text (t : Tag) : t.text.utf8ByteSize = t.text.length := by
  have visible : ∀ c ∈ showBytes t.bytes, Visible c := fun _ => visible_of_mem_showBytes
  calc t.text.utf8ByteSize = String.utf8Len (showBytes t.bytes) := String.utf8ByteSize_ofList _
    _ = (showBytes t.bytes).length := utf8Len_of_visible visible
    _ = t.text.length := by rw [← toList_text, String.length_toList]

/-- The text of a tag is its own, and so is its description, though a backslash shows as itself as
every graphic character does. It holds a character for each byte and three more for each one that is
neither graphic nor the space, each of them one byte long. -/
theorem text_identifies :
    (∀ a b : Tag, a.text = b.text ↔ a = b) ∧ (∀ a b : Tag, a.describe = b.describe ↔ a = b) ∧
    (∀ b, showByte b = [Char.ofNat b.toNat] ↔ Shown b) ∧
    ∀ t : Tag, t.text.length = 4 + 3 * (t.bytes.countP fun b => ¬ Shown b) ∧
      t.text.utf8ByteSize = t.text.length :=
  ⟨fun _ _ => text_injective.eq_iff, fun _ _ => describe_injective.eq_iff,
    fun _ => showByte_eq_single_iff, fun t => ⟨length_text t, utf8ByteSize_text t⟩⟩

end SizedFace.Tag
