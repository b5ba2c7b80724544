import SizedFace.Notice
import SizedFace.Text.Blank

namespace SizedFace

structure LoadConfig where
  mapFiles : Bool
  maxSize : Nat
  deriving DecidableEq, Inhabited

/-- 50 MiB. -/
def defaultMaxSize : Nat := 50 * 1024 * 1024

namespace LoadConfig

def default : LoadConfig := ⟨true, defaultMaxSize⟩

/-- A switch: the word is taken without white space around it, and in either case. -/
def flag? (value : String) : Option Bool :=
  let word := (Text.trim value.toList).map Char.toLower
  if word ∈ ["1".toList, "true".toList, "yes".toList, "on".toList] then some true
  else if word ∈ ["0".toList, "false".toList, "no".toList, "off".toList] then some false
  else none

/-- The value of a run of decimal digits, which is not empty. -/
def decimal? : List Char → Option Nat
  | [] => none
  | cs => cs.foldl
    (fun n c => n.bind fun n => if c.isDigit then some (n * 10 + (c.toNat - '0'.toNat)) else none)
    (some 0)

/-- A size: decimal digits with at most one plus sign before them, white space around them, and a
value that is not zero and fits in 64 bits. -/
def size? (value : String) : Option Nat :=
  let word := Text.trim value.toList
  let digits := match word with
    | '+' :: rest => rest
    | word => word
  match decimal? digits with
  | some n => if 0 < n && n < 0x10000000000000000 then some n else none
  | none => none

/-- The switch that a variable sets, and what is said about it. -/
def readFlag (value : Option String) : Bool × List Notice :=
  match value with
  | none => (default.mapFiles, [])
  | some value =>
    match flag? value with
    | some enabled => (enabled, [.mappingSet enabled])
    | none => (default.mapFiles, [.mappingIgnored value])

def readLimit (value : Option String) : Nat × List Notice :=
  match value with
  | none => (default.maxSize, [])
  | some value =>
    match size? value with
    | some size => (size, [.limitSet size])
    | none => (default.maxSize, [.limitIgnored value])

def ofVariables (mapping limit : Option String) : LoadConfig × List Notice :=
  (⟨(readFlag mapping).1, (readLimit limit).1⟩, (readFlag mapping).2 ++ (readLimit limit).2)

def withMapping (config : LoadConfig) (mapFiles : Bool) : LoadConfig := { config with mapFiles }

def withMaxSize (config : LoadConfig) (maxSize : Nat) : LoadConfig := { config with maxSize }

end LoadConfig

/-- Variables of the environment, as bytes. -/
abbrev Environment := List (String × List UInt8)

namespace Environment

/-- A variable that is not text counts as unset. -/
def text? (environment : Environment) (name : String) : Option String :=
  (environment.lookup name).bind Text.decode?

def loadConfig (environment : Environment) : LoadConfig × List Notice :=
  LoadConfig.ofVariables (environment.text? "FONTINST_MMAP")
    (environment.text? "FONTINST_MAX_FONT_SIZE")

end Environment
end SizedFace
