import SizedFace.Backend
import SizedFace.Shaping.EngineFace

namespace SizedFace.Shaping

/-- Makes a font of the shaping engine, scaled to the grid of the face, so that what it shapes comes
back in font units. A face without glyphs is refused. -/
def engine : ShapingBackend where
  maker := ⟨"HarfBuzz", false⟩
  createHandle data index unitsPerEm :=
    let site := site data.bytes index
    let count := site.glyphCount data.bytes
    if count = 0 then (.error ⟨"HarfBuzz", "face " ++ toString index ++ " has no glyphs"⟩, [])
    else
      (.ok {
        name := "HarfBuzz"
        binding := .engine index unitsPerEm count
        keepsData := !site.copied
        farewell := [.shaperReleased index] },
        [.shaperCreated index unitsPerEm])

/-- Notes the face, and cannot shape. -/
def unshaped : ShapingBackend where
  maker := ⟨"none", false⟩
  createHandle data index unitsPerEm :=
    (.ok {
      name := "none"
      binding := .noted index unitsPerEm
      keepsData := false
      farewell := [] },
      [.shaperBound index data.size])

end SizedFace.Shaping
