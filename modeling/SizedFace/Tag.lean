import SizedFace.Text.Quoted

namespace SizedFace

structure Tag where
  first : UInt8
  second : UInt8
  third : UInt8
  fourth : UInt8
  deriving DecidableEq, Repr

namespace Tag

def ofChars (a b c d : Char) : Tag := ⟨a.toUInt8, b.toUInt8, c.toUInt8, d.toUInt8⟩

def bytes (t : Tag) : List UInt8 := [t.first, t.second, t.third, t.fourth]

/-- The four bytes at a place, read as a number, are a tag. -/
def ofNat (n : Nat) : Tag :=
  ⟨UInt8.ofNat (n / 0x1000000), UInt8.ofNat (n / 0x10000), UInt8.ofNat (n / 0x100), UInt8.ofNat n⟩

def toNat (t : Tag) : Nat :=
  ((t.first.toNat * 256 + t.second.toNat) * 256 + t.third.toNat) * 256 + t.fourth.toNat

/-- A byte that shows as itself: an ASCII graphic character or the space. -/
def isPlain (b : UInt8) : Bool := 0x20 ≤ b && b ≤ 0x7E

/-- A plain byte as its character, any other as `\x` and two lower-case digits. The backslash is
plain, and nothing marks it. -/
def showByte (b : UInt8) : List Char :=
  if isPlain b then [Char.ofNat b.toNat]
  else '\\' :: 'x' :: (Text.hexPadded 2 b.toNat).toList

def text (t : Tag) : String := String.ofList (t.bytes.flatMap showByte)

def describe (t : Tag) : String := "Tag(" ++ t.text ++ ")"

def head : Tag := ofChars 'h' 'e' 'a' 'd'
def maxp : Tag := ofChars 'm' 'a' 'x' 'p'
def os2 : Tag := ofChars 'O' 'S' '/' '2'
def hhea : Tag := ofChars 'h' 'h' 'e' 'a'
def vhea : Tag := ofChars 'v' 'h' 'e' 'a'
def hmtx : Tag := ofChars 'h' 'm' 't' 'x'
def vmtx : Tag := ofChars 'v' 'm' 't' 'x'
def post : Tag := ofChars 'p' 'o' 's' 't'
def pclt : Tag := ofChars 'P' 'C' 'L' 'T'
def cmap : Tag := ofChars 'c' 'm' 'a' 'p'
def loca : Tag := ofChars 'l' 'o' 'c' 'a'
def glyf : Tag := ofChars 'g' 'l' 'y' 'f'
def gvar : Tag := ofChars 'g' 'v' 'a' 'r'
def cff : Tag := ofChars 'C' 'F' 'F' ' '
def cff2 : Tag := ofChars 'C' 'F' 'F' '2'
def ttcf : Tag := ofChars 't' 't' 'c' 'f'

end Tag

/-- The common tables, named apart from their tags. -/
inductive NamedTable where
  | head | maxp | os2 | hhea | vhea | post | pclt
  deriving DecidableEq

def NamedTable.all : List NamedTable := [.head, .maxp, .os2, .hhea, .vhea, .post, .pclt]

def NamedTable.tag : NamedTable → Tag
  | .head => .head
  | .maxp => .maxp
  | .os2 => .os2
  | .hhea => .hhea
  | .vhea => .vhea
  | .post => .post
  | .pclt => .pclt

end SizedFace
