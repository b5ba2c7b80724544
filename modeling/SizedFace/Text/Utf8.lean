import SizedFace.Power

namespace SizedFace.Text

inductive Piece where
  | char (c : Char)
  | stray (bytes : List UInt8)
  deriving DecidableEq, Repr

/-- The bytes that may follow `lead` directly, and how many more follow; none if `lead` begins no
character of several bytes. -/
def followers (lead : Nat) : Option (Nat × Nat × Nat) :=
  if 0xC2 ≤ lead && lead ≤ 0xDF then some (0x80, 0xBF, 0)
  else if lead = 0xE0 then some (0xA0, 0xBF, 1)
  else if lead = 0xED then some (0x80, 0x9F, 1)
  else if 0xE1 ≤ lead && lead ≤ 0xEF then some (0x80, 0xBF, 1)
  else if lead = 0xF0 then some (0x90, 0xBF, 2)
  else if 0xF1 ≤ lead && lead ≤ 0xF3 then some (0x80, 0xBF, 2)
  else if lead = 0xF4 then some (0x80, 0x8F, 2)
  else none

/-- Up to `count` continuation bytes at the start. -/
def continuation : Nat → List UInt8 → List UInt8
  | 0, _ => []
  | _, [] => []
  | n + 1, b :: rest => if 0x80 ≤ b.toNat && b.toNat ≤ 0xBF then b :: continuation n rest else []

/-- The longest start of `b :: rest` that begins a character, and whether it is a whole one. -/
def sequence (b : UInt8) (rest : List UInt8) : List UInt8 × Bool :=
  if b.toNat < 0x80 then ([b], true)
  else match followers b.toNat, rest with
    | some (low, high, more), c :: rest =>
      if low ≤ c.toNat && c.toNat ≤ high then
        let tail := continuation more rest
        (b :: c :: tail, tail.length == more)
      else ([b], false)
    | _, _ => ([b], false)

def assemble : List UInt8 → Char
  | [] => Char.ofNat 0
  | b :: rest =>
    let lead := if b.toNat < 0x80 then b.toNat
      else b.toNat % twoPow (6 - rest.length)
    Char.ofNat (rest.foldl (fun code c => code * 64 + c.toNat % 64) lead)

/-- The bytes cut into characters and stray runs. -/
def pieces : List UInt8 → List Piece
  | [] => []
  | b :: rest =>
    let (bytes, whole) := sequence b rest
    (if whole then .char (assemble bytes) else .stray bytes) ::
      pieces (rest.drop (bytes.length - 1))
termination_by bytes => bytes.length
decreasing_by
  simp only [List.length_drop, List.length_cons]
  omega

def Piece.char? : Piece → Option Char
  | .char c => some c
  | .stray _ => none

/-- The text of the bytes, when all of them are characters. -/
def decode? (bytes : List UInt8) : Option String :=
  ((pieces bytes).mapM Piece.char?).map String.ofList

/-- The text of the bytes with a replacement character for each stray run. -/
def decodeLossy (bytes : List UInt8) : String :=
  String.ofList ((pieces bytes).map fun piece => piece.char?.getD (Char.ofNat 0xFFFD))

end SizedFace.Text
