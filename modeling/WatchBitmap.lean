import WatchBitmap.Config.Encoding
import WatchBitmap.Config.Resources
import WatchBitmap.Host
import WatchBitmap.Proofs.Acceptance
import WatchBitmap.Proofs.BitPacking
import WatchBitmap.Proofs.Blocks
import WatchBitmap.Proofs.Compression
import WatchBitmap.Proofs.Consistency
import WatchBitmap.Proofs.Encoding
import WatchBitmap.Proofs.Header
import WatchBitmap.Proofs.Layout
import WatchBitmap.Proofs.NarrowestFormat
import WatchBitmap.Proofs.Palette
import WatchBitmap.Proofs.Reading
import WatchBitmap.Proofs.Reencoding
import WatchBitmap.Proofs.RoundTrip
import WatchBitmap.Proofs.RowCoding
import WatchBitmap.Proofs.Transparency
import WatchBitmap.Proofs.Truncation
import WatchBitmap.Sources
import WatchBitmap.Proofs.Amplification
import WatchBitmap.Proofs.PixelStorage
import WatchBitmap.Proofs.Isolation
import WatchBitmap.Proofs.Generation
import WatchBitmap.Proofs.Thresholding
import WatchBitmap.Proofs.HostPictures
import WatchBitmap.Proofs.HostResources
import WatchBitmap.Proofs.JsonText
import WatchBitmap.Proofs.JsonValues
import WatchBitmap.Proofs.Configuration
import WatchBitmap.Proofs.RowGrowth
import WatchBitmap.Proofs.RowGrammar
import WatchBitmap.Proofs.ByteArithmetic
import WatchBitmap.Proofs.Repacking
import WatchBitmap.Proofs.Construction
import WatchBitmap.Proofs.CanonicalTokens
import WatchBitmap.Proofs.Rounding
import WatchBitmap.Proofs.Luminance
import WatchBitmap.Proofs.Outcome
import WatchBitmap.Deflate.Bits
import WatchBitmap.Deflate.Block
import WatchBitmap.Deflate.Zlib
import WatchBitmap.Png
