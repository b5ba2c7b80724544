import SizedFace.Bytes
import SizedFace.Fixed

namespace SizedFace.Cff

/-- A decimal number as written: the digits kept, how many of them are before the point and behind
it, and the power of ten on top. -/
structure Decimal where
  negative : Bool
  digits : Nat
  whole : Nat
  part : Nat
  exponent : Int
  deriving DecidableEq

inductive Operand where
  | whole (i : Int)
  | decimal (d : Decimal)
  /-- A mixture of several operands. -/
  | blended
  deriving DecidableEq

/-- A whole operand of the widths that charstrings share with dictionaries, and what follows it. -/
def readWhole? (lead : Nat) (rest : List UInt8) : Option (Int × List UInt8) :=
  if 32 ≤ lead ∧ lead ≤ 246 then some ((lead : Int) - 139, rest)
  else if 247 ≤ lead ∧ lead ≤ 250 then
    match rest with
    | b :: rest => some (((lead : Int) - 247) * 256 + b.toNat + 108, rest)
    | [] => none
  else if 251 ≤ lead ∧ lead ≤ 254 then
    match rest with
    | b :: rest => some (-((lead : Int) - 251) * 256 - b.toNat - 108, rest)
    | [] => none
  else if lead = 28 then
    match rest with
    | a :: b :: rest => some (Bytes.signed 16 (a.toNat * 256 + b.toNat), rest)
    | _ => none
  else none

theorem length_of_readWhole? {lead : Nat} {rest : List UInt8} {i : Int} {rest' : List UInt8}
    (h : readWhole? lead rest = some (i, rest')) : rest'.length ≤ rest.length := by
  unfold readWhole? at h
  grind

namespace Decimal

/-- Digits are kept up to this number; more would not fit a word. -/
def limit : Nat := 0xCCCCCCC

/-- The parts of a decimal number while its half-bytes are read. -/
inductive Phase where
  | whole | part | exponent | done
  deriving DecidableEq

structure Reading where
  phase : Phase
  value : Decimal
  /-- Powers of ten from digits that were not kept. -/
  shift : Int
  power : Nat
  negativePower : Bool

def Reading.start : Reading := ⟨.whole, ⟨false, 0, 0, 0, 0⟩, 0, 0, false⟩

/-- One half-byte more: a digit, the point, an exponent mark, the sign, or the end. -/
def Reading.step (r : Reading) (nibble : Nat) : Reading :=
  match r.phase with
  | .done => r
  | .whole =>
    if nibble ≤ 9 then
      if limit ≤ r.value.digits then { r with shift := r.shift + 1 }
      else if nibble = 0 ∧ r.value.digits = 0 then r
      else { r with value := { r.value with
        digits := r.value.digits * 10 + nibble, whole := r.value.whole + 1 } }
    else if nibble = 0xE then { r with value := { r.value with negative := true } }
    else if nibble = 0xA then { r with phase := .part }
    else if nibble = 0xB then { r with phase := .exponent }
    else if nibble = 0xC then { r with phase := .exponent, negativePower := true }
    else { r with phase := .done }
  | .part =>
    if nibble ≤ 9 then
      if nibble = 0 ∧ r.value.digits = 0 then { r with shift := r.shift - 1 }
      else if limit ≤ r.value.digits ∨ 9 ≤ r.value.part then r
      else { r with value := { r.value with
        digits := r.value.digits * 10 + nibble, part := r.value.part + 1 } }
    else if nibble = 0xB then { r with phase := .exponent }
    else if nibble = 0xC then { r with phase := .exponent, negativePower := true }
    else { r with phase := .done }
  | .exponent =>
    if nibble ≤ 9 then { r with power := min (r.power * 10 + nibble) 1000 }
    else { r with phase := .done }

/-- Reads half-bytes up to the one that ends the number; none if the bytes end before it. -/
def read? (r : Reading) : List UInt8 → Option (Decimal × List UInt8)
  | [] => none
  | b :: rest =>
    let r := (r.step (b.toNat / 16)).step (b.toNat % 16)
    if r.phase = .done then
      let power : Int := if r.negativePower then -r.power else r.power
      some ({ r.value with exponent := power + r.shift }, rest)
    else read? r rest

theorem length_of_read? {bytes : List UInt8} {r : Reading} {d : Decimal} {rest : List UInt8}
    (h : read? r bytes = some (d, rest)) : rest.length < bytes.length := by
  induction bytes generalizing r with
  | nil => simp [read?] at h
  | cons b bytes ih =>
    simp only [read?] at h
    split at h
    · simp only [Option.some.injEq, Prod.mk.injEq] at h
      obtain ⟨-, rfl⟩ := h
      simp
    · have := ih h
      simp only [List.length_cons]
      omega

end Decimal

inductive Token where
  | operand (value : Operand)
  | operator (code : Nat)
  | fault

/-- Operators of two bytes have this much on top of their second. -/
def escape : Nat := 256

def isOperator (code : Nat) : Bool :=
  code ≤ 11 || (13 ≤ code && code ≤ 24) ||
    (escape ≤ code && code ≤ escape + 14) || (escape + 17 ≤ code && code ≤ escape + 23) ||
    (escape + 30 ≤ code && code ≤ escape + 38)

/-- The next token and what follows it. A number that is cut off ends the dictionary. -/
def readToken (lead : UInt8) (rest : List UInt8) : Token × List UInt8 :=
  let code := lead.toNat
  if code = 29 then
    match rest with
    | a :: b :: c :: d :: rest =>
      let word := ((a.toNat * 256 + b.toNat) * 256 + c.toNat) * 256 + d.toNat
      (.operand (.whole (Bytes.signed 32 word)), rest)
    | _ => (.fault, [])
  else if code = 30 then
    match Decimal.read? .start rest with
    | some (d, rest) => (.operand (.decimal d), rest)
    | none => (.fault, [])
  else if code = 28 ∨ 32 ≤ code ∧ code ≤ 254 then
    match readWhole? code rest with
    | some (i, rest) => (.operand (.whole i), rest)
    | none => (.fault, [])
  else if code = 12 then
    match rest with
    | b :: rest =>
      (if isOperator (escape + b.toNat) then .operator (escape + b.toNat) else .fault, rest)
    | [] => (.fault, [])
  else (if isOperator code then .operator code else .fault, rest)

theorem length_of_readToken (lead : UInt8) (rest : List UInt8) :
    (readToken lead rest).2.length ≤ rest.length := by
  unfold readToken
  simp only
  split
  · split <;> simp
    omega
  · split
    · split
      · rename_i h
        exact Nat.le_of_lt (Decimal.length_of_read? h)
      · simp
    · split
      · split
        · rename_i h
          exact length_of_readWhole? h
        · simp
      · split
        · split <;> simp
        · simp

def tokens : List UInt8 → List Token
  | [] => []
  | lead :: rest => (readToken lead rest).1 :: tokens (readToken lead rest).2
termination_by bytes => bytes.length
decreasing_by
  have := length_of_readToken lead rest
  simp only [List.length_cons]
  omega

/-- What an operator says, as far as the outlines need it. -/
inductive Entry where
  | charset (offset : Int)
  | charstrings (offset : Int)
  | privateRange (start length : Int)
  | fontDicts (offset : Int)
  | fontSelect (offset : Int)
  | subroutines (offset : Int)
  | variationStore (offset : Int)
  | variationIndex (index : Int)
  | characterIds
  | matrix (operands : List Operand)
  | other

def takesWhole (code : Nat) : Bool :=
  code ∈ [0, 1, 2, 3, 4, 13, 15, 16, 17, 19, 22, 24, escape, escape + 1, escape + 5, escape + 6,
    escape + 14, escape + 17, escape + 19, escape + 20, escape + 21, escape + 22, escape + 33,
    escape + 34, escape + 35, escape + 36, escape + 37, escape + 38]

def takesNumber (code : Nat) : Bool :=
  code ∈ [10, 11, 20, 21, escape + 2, escape + 3, escape + 4, escape + 8, escape + 9, escape + 10,
    escape + 11, escape + 18, escape + 31, escape + 32]

def whole? : Operand → Option Int
  | .whole i => some i
  | _ => none

/-- The entry of an operator after its operands, none if they are not those it takes. -/
def entry? (code : Nat) (operands : List Operand) : Option Entry :=
  if code = 18 then do
    let length ← whole? (← operands[0]?)
    let start ← whole? (← operands[1]?)
    if start < 0 ∨ length < 0 then none else pure (.privateRange start length)
  else if code = escape + 30 then do
    let _ ← whole? (← operands[0]?)
    let _ ← whole? (← operands[1]?)
    let _ ← whole? (← operands[2]?)
    pure .characterIds
  else if code = 5 then if operands.length < 4 then none else some .other
  else if code = escape + 7 then some (.matrix operands)
  else if takesWhole code then do
    let i ← whole? (← operands.getLast?)
    pure (if code = 15 then .charset i
      else if code = 17 then .charstrings i
      else if code = 19 then .subroutines i
      else if code = 22 then .variationIndex i
      else if code = 24 then .variationStore i
      else if code = escape + 36 then .fontDicts i
      else if code = escape + 37 then .fontSelect i
      else .other)
  else if takesNumber code then if operands.isEmpty then none else some .other
  else some .other

/-- How many regions a mixture has under an index of the variation store; none without such an
index. -/
abbrev RegionCount := Nat → Option Nat

def maxOperands : Nat := 513

/-- The operands after a mixture: the last one tells how many values there are, and each of them
takes up one operand for each region. -/
def blend (regions : Nat) (operands : List Operand) : Option (List Operand) := do
  let count ← whole? (← operands.getLast?)
  let operands := operands.dropLast
  if count < 0 then none
  else
    let taken := count.toNat * (regions + 1)
    if operands.length < taken then none
    else pure (operands.take (operands.length - taken) ++ List.replicate count.toNat .blended)

/-- The entries of a dictionary in order, none for each one at fault. `regions` is there where
operands can be mixtures, and `index` is the index of the variation store in force. -/
def entriesFrom (regions : Option RegionCount) : Nat → List Operand → List Token →
    List (Option Entry)
  | _, _, [] => []
  | index, operands, .operand value :: rest =>
    if maxOperands ≤ operands.length then none :: entriesFrom regions index operands rest
    else entriesFrom regions index (operands ++ [value]) rest
  | index, operands, .fault :: rest => none :: entriesFrom regions index operands rest
  | index, operands, .operator code :: rest =>
    if code = 23 then
      match regions.bind (· index) with
      | none => none :: entriesFrom regions index operands rest
      | some count =>
        match blend count operands with
        | none => none :: entriesFrom regions index operands rest
        | some operands => entriesFrom regions index operands rest
    else if code = 22 then
      match regions, operands.head?.bind whole? with
      | some count, some chosen =>
        if (count chosen.toNat).isSome then
          entry? code operands :: entriesFrom regions chosen.toNat [] rest
        else none :: entriesFrom regions index operands rest
      | _, _ => none :: entriesFrom regions index operands rest
    else entry? code operands :: entriesFrom regions index [] rest

def entries (dict : Bytes) (regions : Option RegionCount) : List (Option Entry) :=
  entriesFrom regions 0 [] (tokens dict.toList)

def entries? (dict : Bytes) (regions : Option RegionCount) : Option (List Entry) :=
  (entries dict regions).mapM id

end SizedFace.Cff
