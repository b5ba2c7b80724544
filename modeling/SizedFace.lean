import SizedFace.Backend
import SizedFace.Binary32.Basic
import SizedFace.Binary32.Bits
import SizedFace.Binary32.Decimal
import SizedFace.Binary32.Exact
import SizedFace.Binary32.Order
import SizedFace.Binary32.Rounding
import SizedFace.Box
import SizedFace.Bytes
import SizedFace.Cff.Charset
import SizedFace.Cff.Charstring
import SizedFace.Cff.Dict
import SizedFace.Cff.Drawing
import SizedFace.Cff.Font
import SizedFace.Cff.Index
import SizedFace.Cff.Standard
import SizedFace.Cff.Table
import SizedFace.Cff.Variation
import SizedFace.CharacterMap.Basic
import SizedFace.CharacterMap.Groups
import SizedFace.CharacterMap.Search
import SizedFace.CharacterMap.Segments
import SizedFace.Fault
import SizedFace.FileTree
import SizedFace.Fixed
import SizedFace.FontData
import SizedFace.GlyphNames.Basic
import SizedFace.GlyphNames.Macintosh
import SizedFace.Instance.Basic
import SizedFace.Instance.Opening
import SizedFace.Instance.Query
import SizedFace.Journal
import SizedFace.LoadConfig
import SizedFace.Lookup
import SizedFace.Notice
import SizedFace.Outline.Contour
import SizedFace.Outline.Pen
import SizedFace.Path
import SizedFace.Platform.NativeFont
import SizedFace.Power
import SizedFace.Proofs.Advances
import SizedFace.Proofs.Assembly
import SizedFace.Proofs.CachedMetrics
import SizedFace.Proofs.CharacterListing
import SizedFace.Proofs.CharacterRange
import SizedFace.Proofs.Companion
import SizedFace.Proofs.ControlBox
import SizedFace.Proofs.Endings
import SizedFace.Proofs.EngineFonts
import SizedFace.Proofs.EngineGlyphs
import SizedFace.Proofs.FaceLocation
import SizedFace.Proofs.FaceOpening
import SizedFace.Proofs.GlyphExtents
import SizedFace.Proofs.GlyphReach
import SizedFace.Proofs.Independence
import SizedFace.Proofs.LayoutDirection
import SizedFace.Proofs.Ledger
import SizedFace.Proofs.Loading
import SizedFace.Proofs.NameLookup
import SizedFace.Proofs.NativeCheck
import SizedFace.Proofs.Numbering
import SizedFace.Proofs.Opening
import SizedFace.Proofs.Overhang
import SizedFace.Proofs.Precedence
import SizedFace.Proofs.Replies
import SizedFace.Proofs.RoundingError
import SizedFace.Proofs.Settings
import SizedFace.Proofs.TableAccess
import SizedFace.Proofs.TagText
import SizedFace.Proofs.Views
import SizedFace.Scripted
import SizedFace.Session.Basic
import SizedFace.Session.Lemmas
import SizedFace.Session.View
import SizedFace.Sfnt.Directory
import SizedFace.Sfnt.Face
import SizedFace.Sfnt.Glyphs
import SizedFace.Sfnt.Headers
import SizedFace.Shaping.Backends
import SizedFace.Shaping.EngineFace
import SizedFace.SystemError
import SizedFace.Tag
import SizedFace.Text.Blank
import SizedFace.Text.Printable
import SizedFace.Text.Quoted
import SizedFace.Text.Utf8
