import Mathlib.Data.List.Forall2
import Mathlib.Data.List.Induction
import Mathlib.Data.Nat.Digits.Defs
import SizedFace.LoadConfig

namespace SizedFace

namespace Text

/-- A text is this, with white space around it or none. -/
def Padded (core : List Char) (text : String) : Prop :=
  ∃ before after, text.toList = before ++ core ++ after ∧
    (∀ c ∈ before, isBlank c = true) ∧ ∀ c ∈ after, isBlank c = true

/-- A word letter for letter, capitals or not. -/
def SameLetters (cs word : List Char) : Prop :=
  List.Forall₂ (fun c letter => c = letter ∨ c = letter.toUpper) cs word

theorem padded_iff {core : List Char} {text : String} (solid : ∀ c ∈ core, isBlank c = false) :
    Padded core text ↔ trim text.toList = core := by
  constructor
  · rintro ⟨before, after, same, blank, blank'⟩
    rw [same]
    exact trim_append blank solid blank'
  · rintro rfl
    exact exists_trim text.toList

theorem toNat_toLower (c : Char) :
    c.toLower.toNat = if 65 ≤ c.toNat ∧ c.toNat ≤ 90 then c.toNat + 32 else c.toNat := by
  unfold Char.toLower
  split
  · rename_i capital
    have bounds : 65 ≤ c.toNat ∧ c.toNat ≤ 90 := by simpa [UInt32.le_iff_toNat_le] using capital
    have small : c.val.toNat + 32 < 2 ^ 32 := by
      have below : c.val.toNat ≤ 90 := bounds.2
      omega
    rw [if_pos bounds]
    exact (UInt32.toNat_add c.val 32).trans (Nat.mod_eq_of_lt small)
  · rename_i other
    rw [if_neg]
    simpa [UInt32.le_iff_toNat_le] using other

theorem toNat_toUpper (c : Char) :
    c.toUpper.toNat = if 97 ≤ c.toNat ∧ c.toNat ≤ 122 then c.toNat - 32 else c.toNat := by
  unfold Char.toUpper
  split
  · rename_i letter
    have bounds : 97 ≤ c.toNat ∧ c.toNat ≤ 122 := by simpa [UInt32.le_iff_toNat_le] using letter
    have within : 97 ≤ c.val.toNat ∧ c.val.toNat ≤ 122 := bounds
    rw [if_pos bounds]
    refine (UInt32.toNat_add c.val _).trans ?_
    change (c.val.toNat + 4294967264) % 2 ^ 32 = c.val.toNat - 32
    omega
  · rename_i other
    rw [if_neg]
    simpa [UInt32.le_iff_toNat_le] using other

theorem isUpper_iff {c : Char} : c.isUpper = true ↔ 65 ≤ c.toNat ∧ c.toNat ≤ 90 := by
  change decide (65 ≤ c.val ∧ c.val ≤ 90) = true ↔ _
  simp [UInt32.le_iff_toNat_le]

theorem isAlphanum_iff {c : Char} : c.isAlphanum = true ↔
    (65 ≤ c.toNat ∧ c.toNat ≤ 90) ∨ (97 ≤ c.toNat ∧ c.toNat ≤ 122) ∨
      (48 ≤ c.toNat ∧ c.toNat ≤ 57) := by
  change (decide (65 ≤ c.val ∧ c.val ≤ 90) || (decide (97 ≤ c.val) && decide (c.val ≤ 122)) ||
    (decide (48 ≤ c.val) && decide (c.val ≤ 57))) = true ↔ _
  simp [UInt32.le_iff_toNat_le, or_assoc]

theorem toLower_eq_iff {c letter : Char} (small : letter.isUpper = false) :
    c.toLower = letter ↔ c = letter ∨ c = letter.toUpper := by
  rw [← Bool.not_eq_true, isUpper_iff] at small
  rw [← Char.toNat_inj, ← Char.toNat_inj, ← Char.toNat_inj, toNat_toLower, toNat_toUpper]
  split <;> split <;> omega

theorem sameLetters_iff {cs word : List Char} (small : ∀ letter ∈ word, letter.isUpper = false) :
    SameLetters cs word ↔ cs.map Char.toLower = word := by
  unfold SameLetters
  induction word generalizing cs with
  | nil => simp
  | cons letter word ih =>
    obtain ⟨first, others⟩ := List.forall_mem_cons.1 small
    cases cs with
    | nil => simp
    | cons c cs => simp [ih others, toLower_eq_iff first]

/-- The lower case of a character. ASCII has its own, and of the other characters only the Kelvin
sign and the dotted capital I have one that begins in ASCII. -/
inductive LowersTo (c : Char) : List Char → Prop
  | ascii (own : c.toNat < 0x80) : LowersTo c [c.toLower]
  | kelvin (sign : c.toNat = 0x212A) : LowersTo c ['k']
  | dotted (sign : c.toNat = 0x130) : LowersTo c ['i', Char.ofNat 0x307]
  | other {first : Char} {rest : List Char} (other : 0x80 ≤ c.toNat) (beyond : 0x80 ≤ first.toNat) :
    LowersTo c (first :: rest)

/-- The lower case of a text is that of its characters one after another. -/
inductive Lowers : List Char → List Char → Prop
  | nil : Lowers [] []
  | cons {c : Char} {cs lower lowers : List Char} (first : LowersTo c lower)
    (others : Lowers cs lowers) : Lowers (c :: cs) (lower ++ lowers)

theorem toLower_of_other {c : Char} (other : 0x80 ≤ c.toNat) : c.toLower = c := by
  rw [← Char.toNat_inj, toNat_toLower, if_neg (by omega)]

/-- Whether a text spells an ASCII word without i and k does not depend on the lower case of
characters outside ASCII. -/
theorem lowers_eq_iff {cs lowered word : List Char} (lowers : Lowers cs lowered)
    (plain : ∀ letter ∈ word, letter.toNat < 0x80 ∧ letter ≠ 'i' ∧ letter ≠ 'k') :
    lowered = word ↔ cs.map Char.toLower = word := by
  induction lowers generalizing word with
  | nil => rfl
  | @cons c cs lower lowered first _ ih =>
    cases word with
    | nil =>
      cases first <;> simp
    | cons letter word =>
      obtain ⟨⟨ascii, notI, notK⟩, others⟩ := List.forall_mem_cons.1 plain
      have rest := ih others
      have foreign (other : 0x80 ≤ c.toNat) : c.toLower ≠ letter := by
        rintro rfl
        rw [toLower_of_other other] at ascii
        omega
      cases first with
      | ascii own => simp [rest]
      | kelvin sign => simp [foreign (by omega), notK.symm]
      | dotted sign => simp [foreign (by omega), notI.symm]
      | @other first more other beyond =>
        have apart : first ≠ letter := by
          rintro rfl
          omega
        simp [foreign other, apart]

end Text

namespace LoadConfig
open Text

def switchWords : Bool → List String
  | true => ["1", "true", "yes", "on"]
  | false => ["0", "false", "no", "off"]

/-- A text is a word that switches on, or off. -/
def Switches (enabled : Bool) (text : String) : Prop :=
  ∃ word ∈ switchWords enabled, ∃ core, Padded core text ∧ SameLetters core word.toList

/-- Words are compared character by character. -/
local instance : LawfulBEq (List Char) := inferInstance

/-- The switch of a word in lower case. -/
def wordFlag? (word : List Char) : Option Bool :=
  if word ∈ (switchWords true).map String.toList then some true
  else if word ∈ (switchWords false).map String.toList then some false
  else none

theorem flag?_eq_wordFlag? (text : String) :
    flag? text = wordFlag? ((trim text.toList).map Char.toLower) := rfl

theorem wordFlag?_eq_some {word : List Char} {enabled : Bool} :
    wordFlag? word = some enabled ↔ word ∈ (switchWords enabled).map String.toList := by
  have apart : ∀ w ∈ (switchWords true).map String.toList,
      w ∉ (switchWords false).map String.toList := by decide
  unfold wordFlag?
  split
  · rename_i on
    cases enabled <;> simp [on, apart word on]
  · rename_i notOn
    split
    · rename_i off
      cases enabled <;> simp [off, notOn]
    · rename_i notOff
      cases enabled <;> simp [notOff, notOn]

theorem isBlank_of_isAlphanum {c : Char} (h : c.isAlphanum = true) : isBlank c = false := by
  rw [isAlphanum_iff] at h
  unfold isBlank
  simp only [Bool.or_eq_false_iff, Bool.and_eq_false_iff, decide_eq_false_iff_not]
  omega

theorem isAlphanum_toUpper {c : Char} (h : c.isAlphanum = true) : c.toUpper.isAlphanum = true := by
  rw [isAlphanum_iff] at h ⊢
  rw [toNat_toUpper]
  split <;> omega

theorem solid_of_sameLetters {core word : List Char}
    (letters : ∀ letter ∈ word, letter.isAlphanum = true)
    (same : SameLetters core word) : ∀ c ∈ core, isBlank c = false := by
  induction same with
  | nil => simp
  | @cons c letter cs word first _ ih =>
    obtain ⟨own, others⟩ := List.forall_mem_cons.1 letters
    refine List.forall_mem_cons.2 ⟨?_, ih others⟩
    rcases first with rfl | rfl
    · exact isBlank_of_isAlphanum own
    · exact isBlank_of_isAlphanum (isAlphanum_toUpper own)

/-- The words of a switch are of small letters and digits. -/
theorem switchWords_letters : ∀ enabled, ∀ word ∈ switchWords enabled, ∀ letter ∈ word.toList,
    letter.isUpper = false ∧ letter.isAlphanum = true := by
  intro enabled
  cases enabled <;> simp [switchWords]

theorem switchWords_plain : ∀ enabled, ∀ word ∈ switchWords enabled, ∀ letter ∈ word.toList,
    letter.toNat < 0x80 ∧ letter ≠ 'i' ∧ letter ≠ 'k' := by
  intro enabled
  cases enabled <;> simp [switchWords]

/-- Which lower case the characters outside ASCII have makes no difference to a switch. -/
theorem wordFlag?_of_lowers {text : String} {lowered : List Char}
    (lowers : Lowers (trim text.toList) lowered) : wordFlag? lowered = flag? text := by
  apply Option.ext
  intro enabled
  rw [flag?_eq_wordFlag?, wordFlag?_eq_some, wordFlag?_eq_some, List.mem_map, List.mem_map]
  have spelled (word : String) (mem : word ∈ switchWords enabled) :
      word.toList = lowered ↔ word.toList = (trim text.toList).map Char.toLower := by
    rw [eq_comm, lowers_eq_iff lowers (switchWords_plain enabled word mem), eq_comm]
  exact exists_congr fun word => and_congr_right (spelled word)

theorem flag?_eq_some {text : String} {enabled : Bool} :
    flag? text = some enabled ↔ Switches enabled text := by
  rw [flag?_eq_wordFlag?, wordFlag?_eq_some, List.mem_map]
  constructor
  · rintro ⟨word, mem, same⟩
    have letters := switchWords_letters enabled word mem
    have core : SameLetters (trim text.toList) word.toList :=
      (sameLetters_iff fun letter mem => (letters letter mem).1).2 same.symm
    exact ⟨word, mem, _, exists_trim text.toList, core⟩
  · rintro ⟨word, mem, core, padded, same⟩
    have letters := switchWords_letters enabled word mem
    have solid := solid_of_sameLetters (fun letter mem => (letters letter mem).2) same
    obtain rfl := (padded_iff solid).1 padded
    exact ⟨word, mem, ((sameLetters_iff fun letter mem => (letters letter mem).1).1 same).symm⟩

def digit (c : Char) : Nat := c.toNat - '0'.toNat

/-- The number that decimal digits stand for. -/
def decimalValue (digits : List Char) : Nat := Nat.ofDigits 10 (digits.map digit).reverse

theorem decimalValue_append (digits : List Char) (c : Char) :
    decimalValue (digits ++ [c]) = decimalValue digits * 10 + digit c := by
  simp only [decimalValue, List.map_append, List.map_cons, List.map_nil, List.reverse_append,
    List.reverse_cons, List.reverse_nil, List.nil_append, List.cons_append, Nat.ofDigits_cons]
  rw [Nat.mul_comm, Nat.add_comm]

/-- A digit more behind a number, as long as the number fits. -/
def addDigit? (fits : Nat → Bool) (n : Nat) (c : Char) : Option Nat :=
  if c.isDigit && fits (n * 10 + digit c) then some (n * 10 + digit c) else none

theorem addDigit?_eq_some {fits : Nat → Bool} {n m : Nat} {c : Char} :
    addDigit? fits n c = some m ↔
      c.isDigit = true ∧ n * 10 + digit c = m ∧ fits m = true := by
  unfold addDigit?
  split
  · rename_i h
    simp only [Bool.and_eq_true] at h
    constructor
    · intro same
      obtain rfl := Option.some.inj same
      exact ⟨h.1, rfl, h.2⟩
    · rintro ⟨_, rfl, _⟩
      rfl
  · rename_i h
    simp only [Bool.and_eq_true, not_and] at h
    constructor
    · intro same
      cases same
    · rintro ⟨digit, rfl, within⟩
      exact absurd within (h digit)

/-- Digits read one by one give their value, if it fits. The values on the way are smaller. -/
theorem foldl_addDigit? {fits : Nat → Bool} (zero : fits 0 = true)
    (smaller : ∀ n d, fits (n * 10 + d) = true → fits n = true) {digits : List Char} {n : Nat} :
    digits.foldl (fun m c => m.bind (addDigit? fits · c)) (some 0) = some n ↔
      (∀ c ∈ digits, c.isDigit = true) ∧ decimalValue digits = n ∧ fits n = true := by
  induction digits using List.reverseRecOn generalizing n with
  | nil =>
    simp [decimalValue]
    rintro rfl
    exact zero
  | append_singleton digits c ih =>
    rw [List.foldl_append, List.foldl_cons, List.foldl_nil, Option.bind_eq_some_iff]
    constructor
    · rintro ⟨m, read, step⟩
      obtain ⟨all, rfl, _⟩ := ih.1 read
      obtain ⟨last, rfl, within⟩ := addDigit?_eq_some.1 step
      refine ⟨?_, decimalValue_append digits c, within⟩
      simpa [or_imp, forall_and] using ⟨all, last⟩
    · rintro ⟨all, rfl, within⟩
      rw [decimalValue_append] at within
      have last := all c (by simp)
      have before : ∀ c ∈ digits, c.isDigit = true := fun c mem => all c (by simp [mem])
      exact ⟨decimalValue digits, ih.2 ⟨before, rfl, smaller _ _ within⟩,
        addDigit?_eq_some.2 ⟨last, (decimalValue_append digits c).symm, by
          rw [decimalValue_append]; exact within⟩⟩

theorem decimal?_eq_some {digits : List Char} {n : Nat} :
    decimal? digits = some n ↔
      digits ≠ [] ∧ (∀ c ∈ digits, c.isDigit = true) ∧ decimalValue digits = n := by
  cases digits with
  | nil => simp [decimal?]
  | cons c cs =>
    have step : (fun (m : Option Nat) c => m.bind (addDigit? (fun _ => true) · c)) =
        fun m c => m.bind fun n => if c.isDigit then some (n * 10 + (c.toNat - '0'.toNat))
          else none := by
      simp only [addDigit?, Bool.and_true, digit]
    simp only [decimal?, ← step, foldl_addDigit? rfl fun _ _ _ => rfl]
    simp

def fitsWord (n : Nat) : Bool := n < 2 ^ 64

theorem fitsWord_of_mul_add (n d : Nat) (fits : fitsWord (n * 10 + d) = true) :
    fitsWord n = true := by
  simp only [fitsWord, decide_eq_true_eq] at fits ⊢
  omega

/-- The value of decimal digits, kept in a word of 64 bits all the while. -/
def wordDecimal? : List Char → Option Nat
  | [] => none
  | digits => digits.foldl (fun m c => m.bind (addDigit? fitsWord · c)) (some 0)

theorem wordDecimal?_eq_some {digits : List Char} {n : Nat} :
    wordDecimal? digits = some n ↔ decimal? digits = some n ∧ n < 2 ^ 64 := by
  cases digits with
  | nil => simp [wordDecimal?, decimal?]
  | cons c cs =>
    rw [decimal?_eq_some]
    simp only [wordDecimal?, foldl_addDigit? rfl fitsWord_of_mul_add, fitsWord, decide_eq_true_eq]
    simp [and_assoc]

/-- A text is a size: decimal digits, a plus sign before them or none, whose value is one of a word
of 64 bits and not zero. -/
def GivesSize (size : Nat) (text : String) : Prop :=
  ∃ sign digits, Padded (sign ++ digits) text ∧ (sign = [] ∨ sign = ['+']) ∧ digits ≠ [] ∧
    (∀ c ∈ digits, c.isDigit = true) ∧ decimalValue digits = size ∧ 1 ≤ size ∧ size ≤ 2 ^ 64 - 1

def unsigned : List Char → List Char
  | '+' :: rest => rest
  | word => word

theorem size?_eq_some_iff {text : String} {size : Nat} :
    size? text = some size ↔
      decimal? (unsigned (trim text.toList)) = some size ∧ 0 < size ∧ size < 2 ^ 64 := by
  have same : size? text = (decimal? (unsigned (trim text.toList))).bind fun n =>
      if 0 < n && n < 0x10000000000000000 then some n else none := by
    unfold size? unsigned
    dsimp only
    cases decimal? _ with
    | none => rfl
    | some n => rfl
  rw [same]
  cases decimal? (unsigned (trim text.toList)) with
  | none => simp
  | some n =>
    simp only [Option.bind_some, Bool.and_eq_true, decide_eq_true_eq,
      Option.ite_none_right_eq_some, Option.some.injEq]
    constructor
    · rintro ⟨within, rfl⟩
      exact ⟨rfl, within⟩
    · rintro ⟨rfl, within⟩
      exact ⟨within, rfl⟩

theorem unsigned_eq_iff {word digits : List Char} (some : digits ≠ [])
    (all : ∀ c ∈ digits, c.isDigit = true) :
    unsigned word = digits ↔ ∃ sign, (sign = [] ∨ sign = ['+']) ∧ word = sign ++ digits := by
  constructor
  · intro same
    unfold unsigned at same
    split at same
    · subst same
      exact ⟨['+'], .inr rfl, rfl⟩
    · subst same
      exact ⟨[], .inl rfl, rfl⟩
  · rintro ⟨sign, rfl | rfl, rfl⟩
    · unfold unsigned
      split
      · rename_i rest same
        have plus := all '+' (by simp_all)
        exact absurd plus (by decide)
      · rfl
    · rfl

theorem size?_eq_some {text : String} {size : Nat} :
    size? text = some size ↔ GivesSize size text := by
  rw [size?_eq_some_iff, decimal?_eq_some]
  have solid {sign digits : List Char} (signed : sign = [] ∨ sign = ['+'])
      (all : ∀ c ∈ digits, c.isDigit = true) : ∀ c ∈ sign ++ digits, isBlank c = false := by
    intro c mem
    rcases List.mem_append.1 mem with mem | mem
    · rcases signed with rfl | rfl
      · cases mem
      · obtain rfl := List.mem_singleton.1 mem
        rfl
    · exact isBlank_of_isAlphanum (by simp [Char.isAlphanum, all c mem])
  constructor
  · rintro ⟨⟨some, all, value⟩, positive, within⟩
    obtain ⟨sign, signed, word⟩ := (unsigned_eq_iff some all).1 rfl
    exact ⟨sign, _, (padded_iff (solid signed all)).2 word, signed, some, all, value, positive,
      Nat.le_sub_one_of_lt within⟩
  · rintro ⟨sign, digits, padded, signed, some, all, value, positive, within⟩
    have word := (padded_iff (solid signed all)).1 padded
    have same : unsigned (trim text.toList) = digits :=
      (unsigned_eq_iff some all).2 ⟨sign, signed, word⟩
    rw [same]
    exact ⟨⟨some, all, value⟩, positive, by omega⟩

example : size? "\t+007 " = some 7 ∧ size? "18446744073709551616" = none := by decide +kernel

/-- What a variable sets: what its text says, and a default where it is unset or its text says
nothing. -/
inductive Sets {α : Type} (gives : α → String → Prop) (default : α) : Option String → α → Prop
  | said {text : String} {a : α} (h : gives a text) : Sets gives default (some text) a
  | unset : Sets gives default none default
  | silent {text : String} (h : ∀ a, ¬ gives a text) : Sets gives default (some text) default

theorem sets_iff {α : Type} {read? : String → Option α} {gives : α → String → Prop}
    (reads : ∀ {text a}, read? text = some a ↔ gives a text) (default : α) (value : Option String)
    (a : α) : (value.bind read?).getD default = a ↔ Sets gives default value a := by
  constructor
  · rintro rfl
    cases value with
    | none => exact .unset
    | some text =>
      rw [Option.bind_some]
      cases read : read? text with
      | none => exact .silent fun a said => by simp [reads.2 said] at read
      | some a => exact .said (reads.1 read)
  · intro sets
    cases sets with
    | said h => simp [reads.2 h]
    | unset => rfl
    | @silent text h =>
      have none : read? text = none :=
        Option.eq_none_iff_forall_ne_some.2 fun a read => h a (reads.1 read)
      simp [none]

theorem mapFiles_ofVariables (mapping limit : Option String) :
    (ofVariables mapping limit).1.mapFiles = (mapping.bind flag?).getD default.mapFiles := by
  cases mapping with
  | none => rfl
  | some text =>
    simp only [ofVariables, readFlag, Option.bind_some]
    cases flag? text <;> rfl

theorem maxSize_ofVariables (mapping limit : Option String) :
    (ofVariables mapping limit).1.maxSize = (limit.bind size?).getD default.maxSize := by
  cases limit with
  | none => rfl
  | some text =>
    simp only [ofVariables, readLimit, Option.bind_some]
    cases size? text <;> rfl

theorem Sets.size_bounds {limit : Option String} {size : Nat}
    (sets : Sets GivesSize default.maxSize limit size) : 0 < size ∧ size < 2 ^ 64 := by
  cases sets with
  | said gives =>
    obtain ⟨_, _, _, _, _, _, _, positive, within⟩ := gives
    exact ⟨positive, by omega⟩
  | unset => decide
  | silent => decide

/-- Each of two variables sets its own setting and leaves the other one alone: to what its text
says, and to the default where it is unset or its text says nothing. The limit is never zero and
fits in 64 bits, and reading it in a word of 64 bits that must hold every value on the way comes to
the same. Whatever the lower case of characters outside ASCII is, it makes no difference. -/
theorem ofVariables_decided (mapping limit : Option String) :
    (∀ enabled, (ofVariables mapping limit).1.mapFiles = enabled ↔
      Sets Switches default.mapFiles mapping enabled) ∧
    (∀ size, (ofVariables mapping limit).1.maxSize = size ↔
      Sets GivesSize default.maxSize limit size) ∧
    0 < (ofVariables mapping limit).1.maxSize ∧ (ofVariables mapping limit).1.maxSize < 2 ^ 64 ∧
    (∀ digits n, wordDecimal? digits = some n ↔ decimal? digits = some n ∧ n < 2 ^ 64) ∧
    ∀ text lowered, Lowers (trim text.toList) lowered → wordFlag? lowered = flag? text := by
  have sizes (size : Nat) : (ofVariables mapping limit).1.maxSize = size ↔
      Sets GivesSize default.maxSize limit size := by
    rw [maxSize_ofVariables]
    exact sets_iff size?_eq_some _ limit size
  obtain ⟨positive, within⟩ := ((sizes _).1 rfl).size_bounds
  refine ⟨fun enabled => ?_, sizes, positive, within, fun _ _ => wordDecimal?_eq_some,
    fun _ _ => wordFlag?_of_lowers⟩
  rw [mapFiles_ofVariables]
  exact sets_iff flag?_eq_some _ mapping enabled

end LoadConfig
end SizedFace
