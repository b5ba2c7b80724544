import SizedFace.Fixed
import SizedFace.Outline.Contour
import SizedFace.Sfnt.Headers

namespace SizedFace.Sfnt

structure GlyphTable where
  /-- Where each glyph begins, and where the last one ends. -/
  places : Array Nat
  data : Bytes

/-- Whether a face varies its quadratic outlines; its stored boxes are then not trusted. -/
def Directory.varies (d : Directory) : Bool :=
  (do
    let table ← d.table? .gvar
    let count ← table.u16? 12
    let flags ← table.u16? 14
    let width := if flags % 2 = 1 then 4 else 2
    if table.size < 20 + (count + 1) * width then none else pure ()).isSome

structure Component where
  flags : Nat
  glyph : Nat
  /-- Distances, or the numbers of two points that are to meet. -/
  first : Int
  second : Int
  xx : Int
  yx : Int
  xy : Int
  yy : Int
  deriving DecidableEq

namespace Component

def has (c : Component) (bit : Nat) : Bool := c.flags.testBit bit

def wideArguments (c : Component) : Bool := c.has 0
def placesByDistance (c : Component) : Bool := c.has 1
def oneScale (c : Component) : Bool := c.has 3
def more (c : Component) : Bool := c.has 5
def twoScales (c : Component) : Bool := c.has 6
def fullMatrix (c : Component) : Bool := c.has 7
def givesMetrics (c : Component) : Bool := c.has 9
def scalesDistance (c : Component) : Bool := c.has 11 && !c.has 12

def transforms (c : Component) : Bool := c.oneScale || c.twoScales || c.fullMatrix

/-- The numbers of a matrix, in parts of `2 ^ 14`, as fixed-point numbers. -/
def scale (n : Int) : Int := n * 4

/-- Reads the part at a place, and where the next one is; none if it is cut off. -/
def read? (bytes : Bytes) (place : Nat) : Option (Component × Nat) := do
  let flags ← bytes.u16? place
  let glyph ← bytes.u16? (place + 2)
  let c : Component := ⟨flags, glyph, 0, 0, Fixed.one, 0, 0, Fixed.one⟩
  let (first, second, place) ←
    match c.placesByDistance, c.wideArguments with
    | true, true => do pure (← bytes.i16? (place + 4), ← bytes.i16? (place + 6), place + 8)
    | true, false => do pure (← bytes.i8? (place + 4), ← bytes.i8? (place + 5), place + 6)
    | false, true => do
      let a ← bytes.u16? (place + 4)
      let b ← bytes.u16? (place + 6)
      pure ((a : Int), (b : Int), place + 8)
    | false, false => do
      let a ← bytes.u8? (place + 4)
      let b ← bytes.u8? (place + 5)
      pure ((a : Int), (b : Int), place + 6)
  let c := { c with first, second }
  if c.oneScale then do
    let n := scale (← bytes.i16? place)
    pure ({ c with xx := n, yy := n }, place + 2)
  else if c.twoScales then do
    let xx := scale (← bytes.i16? place)
    let yy := scale (← bytes.i16? (place + 2))
    pure ({ c with xx, yy }, place + 4)
  else if c.fullMatrix then do
    let xx := scale (← bytes.i16? place)
    let yx := scale (← bytes.i16? (place + 2))
    let xy := scale (← bytes.i16? (place + 4))
    let yy := scale (← bytes.i16? (place + 6))
    pure ({ c with xx, yx, xy, yy }, place + 8)
  else pure (c, place)

/-- The parts from a place on, up to the one that says it is the last, or is cut off. `fuel` bounds
their number. -/
def readAll (bytes : Bytes) : Nat → Nat → List Component
  | 0, _ => []
  | fuel + 1, place =>
    match read? bytes place with
    | none => []
    | some (c, next) => c :: if c.more then readAll bytes fuel next else []

/-- A cheap length of a vector. -/
def reach (a b : Int) : Int :=
  let a : Int := a.natAbs
  let b : Int := b.natAbs
  if b < a then a + (3 * b) / 8 else b + (3 * a) / 8

def transform (c : Component) (p : ContourPoint) : ContourPoint :=
  if c.transforms then
    { p with
      x := Fixed.add (Fixed.mul p.x c.xx) (Fixed.mul p.y c.xy)
      y := Fixed.add (Fixed.mul p.x c.yx) (Fixed.mul p.y c.yy) }
  else p

/-- How far the part is moved, in parts of 64 of a unit, when it is placed by its distances. -/
def distance (c : Component) : Int × Int :=
  let (x, y) :=
    if c.transforms && c.scalesDistance then
      (Fixed.mul c.first (reach c.xx c.xy), Fixed.mul c.second (reach c.yy c.yx))
    else (c.first, c.second)
  (Fixed.wrap (x * 64), Fixed.wrap (y * 64))

def moved (offset : Int × Int) (p : ContourPoint) : ContourPoint :=
  { p with x := Fixed.add p.x offset.1, y := Fixed.add p.y offset.2 }

end Component

inductive GlyphBody where
  /-- The last points of the contours, and the bytes of the points. -/
  | simple (ends : List Nat) (points : Bytes)
  | composite (components : List Component)

def GlyphBody.pointCount (ends : List Nat) : Nat :=
  match ends.getLast? with
  | some last => last + 1
  | none => 0

structure Glyph where
  xMin : Int
  yMin : Int
  xMax : Int
  yMax : Int
  body : GlyphBody

namespace Glyph

def read? (bytes : Bytes) : Option Glyph := do
  let contours ← bytes.i16? 0
  let box (body : GlyphBody) : Option Glyph := do
    pure ⟨← bytes.i16? 2, ← bytes.i16? 4, ← bytes.i16? 6, ← bytes.i16? 8, body⟩
  if contours < 0 then box (.composite (Component.readAll bytes bytes.size 10))
  else
    let count := contours.toNat
    let ends ← bytes.numbers? 10 2 count
    let instructions ← bytes.u16? (10 + 2 * count)
    box (.simple ends.toList (← bytes.drop? (12 + 2 * count + instructions)))

def box (g : Glyph) : Box := ⟨.ofInt g.xMin, .ofInt g.yMin, .ofInt g.xMax, .ofInt g.yMax⟩

/-- The flags of `count` points, some of them repeated, and where they end. `fuel` bounds how many
are stored. -/
def flags? (bytes : Bytes) : Nat → Nat → Nat → Option (List Nat × Nat)
  | _, 0, place => some ([], place)
  | 0, _ + 1, _ => none
  | fuel + 1, count, place => do
    let flag ← bytes.u8? place
    if flag / 8 % 2 = 1 then
      let times := min (1 + (← bytes.u8? (place + 1))) count
      let (rest, stop) ← flags? bytes fuel (count - times) (place + 2)
      pure (List.replicate times flag ++ rest, stop)
    else
      let (rest, stop) ← flags? bytes fuel (count - 1) (place + 1)
      pure (flag :: rest, stop)

/-- The coordinates along an axis, each a difference to the one before: of one byte with its sign in
the flags, of two bytes, or none. -/
def coordinates? (bytes : Bytes) (short same : Nat) (value : Int) (place : Nat) :
    List Nat → Option (List Int × Nat)
  | [] => some ([], place)
  | flag :: rest => do
    let isSame := flag.testBit same
    let (difference, place) ←
      if flag.testBit short then do
        let n ← bytes.u8? place
        pure (if isSame then (n : Int) else -n, place + 1)
      else if isSame then some (0, place)
      else do pure (← bytes.i16? place, place + 2)
    let value := Fixed.wrap (value + difference)
    let (values, stop) ← coordinates? bytes short same value place rest
    pure (value :: values, stop)

def points? (bytes : Bytes) (count : Nat) : Option (List ContourPoint) := do
  let (flags, place) ← flags? bytes count count 0
  let (xs, place) ← coordinates? bytes 1 4 0 place flags
  let (ys, _) ← coordinates? bytes 2 5 0 place flags
  pure ((flags.zip (xs.zip ys)).map fun (flag, x, y) =>
    ⟨Fixed.wrap (x * 64), Fixed.wrap (y * 64), flag % 2 = 1⟩)

/-- Cuts points into contours after the given points, which must ascend. -/
def cut? (start : Nat) (points : List ContourPoint) : List Nat → Option (List Contour)
  | [] => some []
  | stop :: rest =>
    if stop < start then none
    else do
      let contours ← cut? (stop + 1) (points.drop (stop + 1 - start)) rest
      pure (points.take (stop + 1 - start) :: contours)

end Glyph

namespace GlyphTable

/-- The table of a face; the places must fill theirs to the last byte. -/
def ofDirectory? (d : Directory) : Option GlyphTable := do
  let head ← d.head.toOption
  let loca ← d.table? .loca
  let width := if head.longPlaces then 4 else 2
  if loca.size % width ≠ 0 then none
  else
    let places ← loca.numbers? 0 width (loca.size / width)
    pure ⟨if head.longPlaces then places else places.map (· * 2), ← d.table? .glyf⟩

/-- A glyph, `some none` for one without an outline, and `none` for one that cannot be read. -/
def glyph? (t : GlyphTable) (glyph : Nat) : Option (Option Glyph) := do
  let start ← t.places[glyph]?
  let stop ← t.places[glyph + 1]?
  if start = stop then pure none
  else if stop < start then none
  else (Glyph.read? (← t.data.slice? start (stop - start))).map some

/-- The stored box of a glyph; one without an outline has the zero box. -/
def box? (t : GlyphTable) (glyph : Nat) : Option Box :=
  (t.glyph? glyph).map fun
    | some g => g.box
    | none => .zero

/-- How many points a glyph has, those of its parts together. -/
def pointCount? (t : GlyphTable) : Nat → Nat → Option Nat
  | 0, _ => none
  | depth + 1, glyph => do
    match (← t.glyph? glyph).map Glyph.body with
    | none => pure 0
    | some (.simple ends _) => pure (GlyphBody.pointCount ends)
    | some (.composite components) =>
      components.foldlM (fun n c => do pure (n + (← pointCount? t depth c.glyph))) 0

/-- A glyph while it is put together from its parts. -/
structure Assembly where
  points : List ContourPoint
  /-- The last points of the contours. -/
  ends : List Nat
  /-- How far the origin is from the edge that the bearing sets. -/
  origin : Int
  /-- The frame of the last simple glyph: two points on the line and two on the column. -/
  frame : List ContourPoint

/-- A point by its number, where there is room for that many. Behind the points lies the last frame,
and after it the zeros of points still to come. -/
def Assembly.point? (a : Assembly) (room i : Nat) : Option ContourPoint :=
  if i < room then some ((a.points ++ a.frame).getD i ⟨0, 0, false⟩) else none

def Assembly.mapFrom (a : Assembly) (start : Nat) (f : ContourPoint → ContourPoint) : Assembly :=
  { a with points := a.points.take start ++ (a.points.drop start).map f }

/-- The measures that place glyphs: the advances, and the line of the face. -/
structure Placing where
  advances : AdvanceTable
  ascender : Int
  descender : Int

/-- The frame of a glyph whose left edge is at `edge`. -/
def Placing.frame (p : Placing) (glyph : Nat) (edge : Int) : List ContourPoint :=
  let origin := edge - p.advances.bearing glyph
  let far := origin + (p.advances.advance? glyph).getD 0
  [(origin, 0), (far, 0), (0, p.ascender), (0, p.descender)].map fun (x, y) =>
    ⟨Fixed.wrap (x * 64), Fixed.wrap (y * 64), false⟩

/-- Adds a glyph to what is put together, in parts of 64 of a unit. Composite glyphs go down to
`depth` levels; a part may give its own origin. -/
def add? (t : GlyphTable) (placing : Placing) (room : Nat) : Nat → Nat → Assembly → Option Assembly
  | 0, _, _ => none
  | depth + 1, glyph, a => do
    let found ← t.glyph? glyph
    let edge := (found.map Glyph.xMin).getD 0
    let a := { a with origin := Fixed.wrap ((edge - placing.advances.bearing glyph) * 64) }
    match found.map Glyph.body with
    | none => pure a
    | some (.simple ends points) =>
      let start := a.points.length
      let own ← Glyph.points? points (GlyphBody.pointCount ends)
      pure { a with
        points := a.points ++ own
        ends := a.ends ++ ends.map (· + start)
        frame := placing.frame glyph edge }
    | some (.composite components) =>
      let base := a.points.length
      components.foldlM
        (fun a c => do
          let start := a.points.length
          let next ← add? t placing room depth c.glyph a
          let next := if c.givesMetrics then next else { next with origin := a.origin }
          let next := next.mapFrom start c.transform
          let offset ←
            if c.placesByDistance then some c.distance
            else do
              let fixed ← next.point? room (base + c.first.toNat)
              let own ← next.point? room (start + c.second.toNat)
              pure (Fixed.sub fixed.x own.x, Fixed.sub fixed.y own.y)
          pure (next.mapFrom start (Component.moved offset)))
        a

def maxDepth : Nat := 33

/-- The outline of a glyph in font units, moved so that its bearing holds. -/
def outline? (t : GlyphTable) (placing : Placing) (glyph : Nat) : Option Outline := do
  let room := (← t.pointCount? maxDepth glyph) + 4
  let a ← t.add? placing room maxDepth glyph ⟨[], [], 0, []⟩
  let contours ← Glyph.cut? 0 (a.points.map (Component.moved (Fixed.sub 0 a.origin, 0))) a.ends
  pure (contours.flatMap Contour.commands)

end GlyphTable
end SizedFace.Sfnt
