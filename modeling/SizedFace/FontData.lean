import SizedFace.FileTree
import SizedFace.LoadConfig

namespace SizedFace

structure FontData where
  bytes : Bytes
  mapped : Bool
  deriving DecidableEq

namespace FontData

def ofBytes (bytes : Bytes) : FontData := ⟨bytes, false⟩

def size (data : FontData) : Nat := data.bytes.size

def describe (data : FontData) : String :=
  "FontData \x7b mapped: " ++ toString data.mapped ++ ", len: " ++ toString data.size ++ " \x7d"

/-- The data after the file that it maps has come to hold other bytes. It is as long as before, with
zeros past the end of the file. -/
def shown (data : FontData) (bytes : Bytes) : FontData :=
  { data with bytes := bytes.slice 0 data.size }

/-- Takes the content of an opened file. A file above the limit is refused before anything is read;
one of length zero is never mapped, and one that is read needs a buffer first. -/
def ofFile (path : Path) (config : LoadConfig) (file : File) :
    Except LoadFault FontData × List Notice :=
  if config.maxSize < file.size then (.error (.tooLarge path file.size config.maxSize), [])
  else if config.mapFiles && 0 < file.size then
    match file.mapping with
    | .error fault => (.error (.unreadable path fault), [])
    | .ok bytes => (.ok ⟨bytes, true⟩, [.mapped bytes.size path])
  else if file.room then
    match file.reading with
    | .error fault => (.error (.unreadable path fault), [])
    | .ok bytes => (.ok ⟨bytes, false⟩, [.read bytes.size path])
  else (.error (.allocation file.size), [])

/-- Loads the file at a path. Nothing there is one fault, whatever else keeps it from being opened
is another, and a directory is refused whatever the limit is. -/
def load (tree : FileTree) (path : Path) (config : LoadConfig) :
    Except LoadFault FontData × List Notice :=
  match tree.look path with
  | .error fault =>
    if fault = .missing then (.error (.notFound path), [])
    else (.error (.unreadable path fault), [])
  | .ok (.closed fault) | .ok (.untold fault) => (.error (.unreadable path fault), [])
  | .ok .directory => (.error (.unreadable path .isDirectory), [])
  | .ok (.file file) => ofFile path config file

end FontData
end SizedFace
