import SizedFace.Backend

namespace SizedFace.Platform

inductive Refusal where
  | tooSmall
  | collection
  | signature (tag : Tag)
  | faceIndex (index : Nat)
  | noProvider
  | noFont
  deriving DecidableEq

def signatureText (tag : Tag) : String :=
  "[" ++ ", ".intercalate (tag.bytes.map fun b => Text.hexPadded 2 b.toNat) ++ "]"

def Refusal.reason : Refusal → String
  | .tooSmall => "font data too small to be valid"
  | .collection => "font collections cannot be attached to CoreText"
  | .signature tag => "unrecognized sfnt signature " ++ signatureText tag
  | .faceIndex index => "face index " ++ toString index ++ " requested from a single-face font"
  | .noProvider => "failed to create CGDataProvider"
  | .noFont => "failed to create CGFont from data"

/-- The signatures of files of a single face. -/
def signatures : List Tag := [.ofNat 0x00010000, .ofChars 'O' 'T' 'T' 'O', .ofChars 't' 'r' 'u' 'e']

/-- Checks the data before the system sees it; the first fault counts. -/
def check (data : Bytes) (index : Nat) : Except Refusal Unit :=
  if data.size < 12 then .error .tooSmall
  else
    let signature : Tag := .ofNat ((data.u32? 0).getD 0)
    if signature ∈ signatures then
      if index ≠ 0 then .error (.faceIndex index) else .ok ()
    else if signature = .ttcf then .error .collection
    else .error (.signature signature)

/-- What an operating system does with font data that passes the check: it may hand out no provider
for it, and make no font of it. -/
structure System where
  provides : Bytes → Bool
  makes : Bytes → Bool

def System.refusal? (system : System) (data : Bytes) : Option Refusal :=
  if !system.provides data then some .noProvider
  else if !system.makes data then some .noFont
  else none

def native (system : System) : PlatformBackend where
  maker := ⟨"CoreText", false⟩
  variant := .native
  attach data index size :=
    let refuse (refusal : Refusal) : Except BackendFault PlatformResources × List Notice :=
      (.error ⟨"CoreText", refusal.reason⟩, [])
    match check data.bytes index with
    | .error refusal => refuse refusal
    | .ok () =>
      match system.refusal? data.bytes with
      | some refusal => refuse refusal
      | none =>
        (.ok ⟨.native, index, size, [.nativeReleased size]⟩, [.nativeCreated size])

/-- The platform backend of a system that hands out no providers. -/
def nativeFonts : PlatformBackend := native ⟨fun _ => false, fun _ => false⟩

end SizedFace.Platform
