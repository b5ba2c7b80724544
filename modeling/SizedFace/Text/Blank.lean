namespace SizedFace.Text

def isBlank (c : Char) : Bool :=
  let n := c.toNat
  (9 ≤ n && n ≤ 13) || n = 0x20 || n = 0x85 || n = 0xA0 || n = 0x1680 ||
    (0x2000 ≤ n && n ≤ 0x200A) || n = 0x2028 || n = 0x2029 || n = 0x202F || n = 0x205F || n = 0x3000

def trim (cs : List Char) : List Char :=
  ((cs.dropWhile isBlank).reverse.dropWhile isBlank).reverse

/-- Trimming takes white space away and nothing else. -/
theorem exists_trim (cs : List Char) : ∃ before after, cs = before ++ trim cs ++ after ∧
    (∀ c ∈ before, isBlank c = true) ∧ ∀ c ∈ after, isBlank c = true := by
  let rest := cs.dropWhile isBlank
  have front : cs.takeWhile isBlank ++ rest = cs := List.takeWhile_append_dropWhile
  have back : trim cs ++ (rest.reverse.takeWhile isBlank).reverse = rest := by
    rw [trim, ← List.reverse_append, List.takeWhile_append_dropWhile, List.reverse_reverse]
  refine ⟨cs.takeWhile isBlank, (rest.reverse.takeWhile isBlank).reverse, ?_, ?_, ?_⟩
  · rw [List.append_assoc, back, front]
  · exact List.all_eq_true.1 List.all_takeWhile
  · intro c mem
    exact List.all_eq_true.1 List.all_takeWhile c (List.mem_reverse.1 mem)

theorem dropWhile_append_of_solid {cs : List Char} (some : cs ≠ [])
    (solid : ∀ c ∈ cs, isBlank c = false) (more : List Char) :
    (cs ++ more).dropWhile isBlank = cs ++ more := by
  cases cs with
  | nil => exact absurd rfl some
  | cons c cs => exact List.dropWhile_cons_of_neg (by simp [solid c List.mem_cons_self])

/-- What holds no white space is left of itself with white space around it. -/
theorem trim_append {before core after : List Char} (blank : ∀ c ∈ before, isBlank c = true)
    (solid : ∀ c ∈ core, isBlank c = false) (blank' : ∀ c ∈ after, isBlank c = true) :
    trim (before ++ core ++ after) = core := by
  rw [trim, List.append_assoc, List.dropWhile_append_of_pos blank]
  by_cases none : core = []
  · have gone : (after ++ []).dropWhile isBlank = [] := List.dropWhile_append_of_pos blank'
    rw [List.append_nil] at gone
    rw [none, List.nil_append, gone]
    rfl
  · have turned : ∀ c ∈ after.reverse, isBlank c = true :=
      fun c mem => blank' c (List.mem_reverse.1 mem)
    have solid' : ∀ c ∈ core.reverse, isBlank c = false :=
      fun c mem => solid c (List.mem_reverse.1 mem)
    have kept := dropWhile_append_of_solid (mt List.reverse_eq_nil_iff.1 none) solid' []
    rw [List.append_nil] at kept
    rw [dropWhile_append_of_solid none solid, List.reverse_append,
      List.dropWhile_append_of_pos turned, kept, List.reverse_reverse]

end SizedFace.Text
