import SizedFace.Box
import SizedFace.Fault

namespace SizedFace

inductive Notice where
  | mappingSet (enabled : Bool)
  | mappingIgnored (value : String)
  | limitSet (size : Nat)
  | limitIgnored (value : String)
  | mapped (size : Nat) (path : Path)
  | read (size : Nat) (path : Path)
  | companionSkipped (fault : LoadFault)
  | companionIgnored (fault : ReadFault)
  | heightsMissing (index : Nat)
  | faceOpened (index count glyphs unitsPerEm : Nat)
  | shaperCreated (index scale : Nat)
  | shaperReleased (index : Nat)
  | shaperBound (index size : Nat)
  | nativeCreated (size : Binary32)
  | nativeReleased (size : Binary32)
  | capHeightMissing (path : Path)
  | opened (path : Path) (index : Nat) (size : Binary32) (variant : Variant)
      (outline shaping : String)
  | resourcesReleased (variant : Variant) (path : Path)
  | released (path : Path) (index : Nat)

namespace Notice

inductive Level where
  | warning | info | detail
  deriving DecidableEq

def Level.name : Level → String
  | .warning => "WARN"
  | .info => "INFO"
  | .detail => "DEBUG"

def level : Notice → Level
  | .mappingSet _ | .limitSet _ => .info
  | .mappingIgnored _ | .limitIgnored _ | .companionSkipped _ | .companionIgnored _ => .warning
  | _ => .detail

def text : Notice → String
  | .mappingSet enabled =>
    "fontinst memory mapping " ++ (if enabled then "enabled" else "disabled") ++
      " via FONTINST_MMAP"
  | .mappingIgnored value => "Ignoring unrecognized FONTINST_MMAP value '" ++ value ++ "'"
  | .limitSet size => "fontinst max font size set to " ++ toString size ++ " bytes via env"
  | .limitIgnored value => "Ignoring invalid FONTINST_MAX_FONT_SIZE value '" ++ value ++ "'"
  | .mapped size path => "Mapped " ++ toString size ++ " bytes from " ++ path.text
  | .read size path => "Read " ++ toString size ++ " bytes from " ++ path.text
  | .companionSkipped fault => "Skipping companion resource: " ++ fault.message
  | .companionIgnored fault => "Ignoring companion resource that is not a font: " ++ fault.message
  | .heightsMissing index => "Face " ++ toString index ++ " has no OS/2 cap or x height"
  | .faceOpened index count glyphs unitsPerEm =>
    "Opened face " ++ toString index ++ " of " ++ toString count ++ ": " ++ toString glyphs ++
      " glyphs, upem " ++ toString unitsPerEm
  | .shaperCreated index scale =>
    "Created HarfBuzz font for face " ++ toString index ++ " at scale " ++ toString scale
  | .shaperReleased index => "Releasing HarfBuzz font for face " ++ toString index
  | .shaperBound index size =>
    "NoneBackend: binding face " ++ toString index ++ " (" ++ toString size ++ " bytes)"
  | .nativeCreated size => "Created CTFont at " ++ size.text .plain ++ "pt"
  | .nativeReleased size => "Released CTFont at " ++ size.text .plain ++ "pt"
  | .capHeightMissing path => "No cap height in " ++ path.text ++ ", using ascent"
  | .opened path index size variant outline shaping =>
    "Opened " ++ path.text ++ " face " ++ toString index ++ " at " ++ size.text .plain ++ "pt (" ++
      variant.name ++ " variant, " ++ outline ++ " + " ++ shaping ++ ")"
  | .resourcesReleased variant path =>
    "Releasing " ++ variant.name ++ " resources for " ++ path.text
  | .released path index =>
    "Releasing font instance " ++ path.text ++ " face " ++ toString index

def line (notice : Notice) : String := notice.level.name ++ " " ++ notice.text

end Notice
end SizedFace
