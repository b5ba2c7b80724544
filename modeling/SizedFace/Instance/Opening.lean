import SizedFace.Instance.Basic

namespace SizedFace

structure Options where
  config : LoadConfig
  /-- A second resource, asked for the tables that the first one lacks. -/
  companion : Option Path
  outline : OutlineBackend
  shaping : ShapingBackend
  platform : Option PlatformBackend

/-- What is to be opened, and the number of the attempt. -/
structure Request where
  path : Path
  faceIndex : Nat
  pointSize : Binary32
  opening : Nat

def Request.handle (r : Request) (part : Part) (maker : Maker) : Handle := ⟨part, maker, r.opening⟩

abbrev Opened := Except OpenFault Instance × Journal

namespace Opened

def failed (fault : LoadFault) (journal : Journal) : Opened := (.error (.load fault), journal)

def after (journal : Journal) (opened : Opened) : Opened := (opened.1, journal ++ opened.2)

end Opened

def isPointSize (size : Binary32) : Bool := size.isFinite && Binary32.zero.lt size

namespace Options

/-- Loads the companion. One that cannot be loaded is left out. -/
def loadCompanion (o : Options) (tree : FileTree) : Option FontData × List Notice :=
  match o.companion with
  | none => (none, [])
  | some path =>
    match FontData.load tree path o.config with
    | (.ok data, said) => (some data, said)
    | (.error fault, said) => (none, said ++ [.companionSkipped fault])

def assemble (r : Request) (data : FontData) (companion : Option FontData)
    (face : Possession OutlineFace) (shaper : Possession ShapingHandle)
    (platform : Option (Possession PlatformResources)) : Instance :=
  let metrics := face.value.metrics
  let scale (units : Binary32) : Binary32 := scaleUnits units r.pointSize metrics.unitsPerEm
  { path := r.path
    faceIndex := r.faceIndex
    pointSize := r.pointSize
    unitsPerEm := metrics.unitsPerEm
    ascent := scale metrics.ascent
    descent := scale metrics.descent
    capHeight := scale (metrics.capHeight.getD metrics.ascent)
    xHeight := scale (metrics.xHeight.getD (metrics.ascent / .ofNat 2))
    italicAngle := metrics.italicAngle
    glyphCount := face.value.glyphCount
    vertical := false
    face, shaper, platform, data, companion }

/-- The last stage: platform resources, when a platform is asked for. -/
def attach (o : Options) (r : Request) (data : FontData) (companion : Option FontData)
    (face : Possession OutlineFace) (shaper : Possession ShapingHandle) : Opened :=
  let complete (platform : Option (Possession PlatformResources)) : Opened :=
    let i := assemble r data companion face shaper platform
    (.ok i, [.said (.opened r.path r.faceIndex r.pointSize i.variant o.outline.name
      shaper.value.name)])
  match o.platform with
  | none => complete none
  | some backend =>
    match backend.attach data r.faceIndex r.pointSize with
    | (.error fault, said) =>
      (.error (.platform fault),
        Journal.told said ++ Journal.told shaper.value.farewell ++
          [.released shaper.handle, .released face.handle])
    | (.ok resources, said) =>
      let handle := r.handle .platform backend.maker
      (complete (some ⟨resources, handle⟩)).after (Journal.told said ++ [.acquired handle])

def shape (o : Options) (r : Request) (data : FontData) (companion : Option FontData)
    (face : Possession OutlineFace) : Opened :=
  let metrics := face.value.metrics
  match o.shaping.createHandle data r.faceIndex metrics.unitsPerEm with
  | (.error fault, said) => .failed (.backend fault) (Journal.told said ++ [.released face.handle])
  | (.ok shaper, said) =>
    let handle := r.handle .shaper o.shaping.maker
    let missing : List Notice :=
      if metrics.capHeight.isNone then [.capHeightMissing r.path] else []
    (o.attach r data companion face ⟨shaper, handle⟩).after
      (Journal.told said ++ .acquired handle :: Journal.told missing)

/-- The stage of the outlines; a face must have a grid. -/
def outlineStage (o : Options) (r : Request) (data : FontData) (companion : Option FontData) :
    Opened :=
  match o.outline.openFace data companion r.faceIndex with
  | (.error fault, said) => .failed fault (Journal.told said)
  | (.ok face, said) =>
    let handle := r.handle .face o.outline.maker
    if face.metrics.unitsPerEm = 0 then
      .failed (.metrics (.zeroReported o.outline.name r.path))
        (Journal.told said ++ [.acquired handle, .released handle])
    else (o.shape r data companion ⟨face, handle⟩).after (Journal.told said ++ [.acquired handle])

/-- Opens an instance. Nothing is looked at before the point size is accepted. -/
def openInstance (o : Options) (tree : FileTree) (r : Request) : Opened :=
  if isPointSize r.pointSize then
    match FontData.load tree r.path o.config with
    | (.error fault, said) => .failed fault (Journal.told said)
    | (.ok data, said) =>
      let (companion, more) := o.loadCompanion tree
      (o.outlineStage r data companion).after (Journal.told (said ++ more))
  else .failed (.pointSize r.pointSize) []

end Options
end SizedFace
