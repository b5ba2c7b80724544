import SizedFace.Text.Quoted

namespace SizedFace

structure Path where
  bytes : List UInt8
  deriving DecidableEq, Inhabited

namespace Path

def ofString (s : String) : Path := ⟨s.toUTF8.toList⟩

def text (p : Path) : String := Text.decodeLossy p.bytes

def describe (p : Path) : String := Text.quoteBytes p.bytes

def slash : UInt8 := '/'.toUInt8

def cutAt (mark : UInt8) : List UInt8 → List (List UInt8)
  | [] => [[]]
  | b :: rest =>
    match cutAt mark rest with
    | [] => [[b]]
    | part :: parts => if b = mark then [] :: part :: parts else (b :: part) :: parts

def here : List UInt8 := ['.'.toUInt8]

def above : List UInt8 := ['.'.toUInt8, '.'.toUInt8]

/-- The names to walk along. A path that ends in a slash must lead to a directory, as one that ends
in `.` does. -/
def names (p : Path) : List (List UInt8) :=
  let parts := (cutAt slash p.bytes).filter (!·.isEmpty)
  if p.bytes.getLast? = some slash then parts ++ [here] else parts

def isAbsolute (p : Path) : Bool := p.bytes.head? = some slash

end Path
end SizedFace
