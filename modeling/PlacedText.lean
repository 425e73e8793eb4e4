import PlacedText.Angle.Basic
import PlacedText.Angle.Clusters
import PlacedText.Angle.Histogram
import PlacedText.Angle.Skew
import PlacedText.Angle.TrimmedMean
import PlacedText.Content.Lexeme
import PlacedText.Content.Operand
import PlacedText.Content.Stream
import PlacedText.Decimal.Fixed
import PlacedText.Decimal.Shortest
import PlacedText.Decimal.Trimmed
import PlacedText.Document.Basic
import PlacedText.Document.Extraction
import PlacedText.Document.Json
import PlacedText.Drawing.Action
import PlacedText.Drawing.Recording
import PlacedText.Drawing.State
import PlacedText.Fault.Basic
import PlacedText.Fault.Warning
import PlacedText.Font.Basic
import PlacedText.Font.CMap
import PlacedText.Font.Encoding
import PlacedText.Font.GlyphName
import PlacedText.Geometry.Box
import PlacedText.Geometry.Transform
import PlacedText.Json.Basic
import PlacedText.Json.Decode
import PlacedText.Json.Reader
import PlacedText.Options.Basic
import PlacedText.Options.Json
import PlacedText.Outline.Basic
import PlacedText.Outline.Contents
import PlacedText.Outline.Destination
import PlacedText.Outline.NameTree
import PlacedText.Outline.Tree
import PlacedText.Page.CharBox
import PlacedText.Page.GlyphBox
import PlacedText.Page.Layout
import PlacedText.Page.Orientation
import PlacedText.Page.Placement
import PlacedText.Paged.Basic
import PlacedText.Paged.Content
import PlacedText.Proofs.Angle.Accumulation
import PlacedText.Proofs.Angle.Anchors
import PlacedText.Proofs.Angle.Baseline
import PlacedText.Proofs.Angle.Buckets
import PlacedText.Proofs.Angle.Circle
import PlacedText.Proofs.Angle.Means
import PlacedText.Proofs.Angle.Merging
import PlacedText.Proofs.Angle.Metric
import PlacedText.Proofs.Angle.Seam
import PlacedText.Proofs.Angle.Skew
import PlacedText.Proofs.Angle.Trimming
import PlacedText.Proofs.Angle.Turning
import PlacedText.Proofs.Angle.Unwrapping
import PlacedText.Proofs.Content.Counts
import PlacedText.Proofs.Content.Cursor
import PlacedText.Proofs.Content.CursorImages
import PlacedText.Proofs.Content.CursorLexemes
import PlacedText.Proofs.Content.Images
import PlacedText.Proofs.Content.Lexemes
import PlacedText.Proofs.Content.Literal
import PlacedText.Proofs.Content.Numbers
import PlacedText.Proofs.Content.Prefix
import PlacedText.Proofs.Content.RoundTrip
import PlacedText.Proofs.Content.Tokens
import PlacedText.Proofs.Content.Transforms
import PlacedText.Proofs.Content.Words
import PlacedText.Proofs.Content.Writing
import PlacedText.Proofs.Decimal.Rounding
import PlacedText.Proofs.Decimal.Trimmed
import PlacedText.Proofs.Document.Accounting
import PlacedText.Proofs.Document.Arithmetic
import PlacedText.Proofs.Document.Corners
import PlacedText.Proofs.Document.Edited
import PlacedText.Proofs.Document.Isolated
import PlacedText.Proofs.Document.Orderly
import PlacedText.Proofs.Document.Partition
import PlacedText.Proofs.Document.Processed
import PlacedText.Proofs.Document.Processing
import PlacedText.Proofs.Document.Replays
import PlacedText.Proofs.Document.Straightened
import PlacedText.Proofs.Document.Straightening
import PlacedText.Proofs.Document.Tiling
import PlacedText.Proofs.Document.Turns
import PlacedText.Proofs.Document.Unoriented
import PlacedText.Proofs.Document.Untouched
import PlacedText.Proofs.Drawing.Aborts
import PlacedText.Proofs.Drawing.Course
import PlacedText.Proofs.Drawing.Equivariance
import PlacedText.Proofs.Drawing.Execution
import PlacedText.Proofs.Drawing.Expanded
import PlacedText.Proofs.Drawing.Expansion
import PlacedText.Proofs.Drawing.Likeness
import PlacedText.Proofs.Drawing.Limits
import PlacedText.Proofs.Drawing.Nesting
import PlacedText.Proofs.Drawing.Redrawn
import PlacedText.Proofs.Drawing.Replay
import PlacedText.Proofs.Drawing.ResourceNames
import PlacedText.Proofs.Drawing.SafeFonts
import PlacedText.Proofs.Drawing.Selection
import PlacedText.Proofs.Drawing.Showing
import PlacedText.Proofs.Drawing.Simulation
import PlacedText.Proofs.Drawing.Turns
import PlacedText.Proofs.Drawing.Twins
import PlacedText.Proofs.Drawing.Warnings
import PlacedText.Proofs.Effect.Agreement
import PlacedText.Proofs.Effect.Invariant
import PlacedText.Proofs.Effect.Simulation
import PlacedText.Proofs.Font.CharacterMap
import PlacedText.Proofs.Font.CodeUnits
import PlacedText.Proofs.Font.Codes
import PlacedText.Proofs.Font.CompositeWidths
import PlacedText.Proofs.Font.Counting
import PlacedText.Proofs.Font.GlyphNames
import PlacedText.Proofs.Font.Likeness
import PlacedText.Proofs.Geometry.Rotation
import PlacedText.Proofs.Outline.Contents
import PlacedText.Proofs.Outline.Definitions
import PlacedText.Proofs.Outline.Forest
import PlacedText.Proofs.Outline.Items
import PlacedText.Proofs.Outline.NamePlaces
import PlacedText.Proofs.Outline.NameTree
import PlacedText.Proofs.Outline.NameVisits
import PlacedText.Proofs.Outline.NamedTargets
import PlacedText.Proofs.Outline.NamesOnce
import PlacedText.Proofs.Outline.Walk
import PlacedText.Proofs.Page.Bands
import PlacedText.Proofs.Page.Corners
import PlacedText.Proofs.Page.ReadingOrder
import PlacedText.Proofs.Page.RunText
import PlacedText.Proofs.Page.Runs
import PlacedText.Proofs.Page.Sweep
import PlacedText.Proofs.Paged.Boxes
import PlacedText.Proofs.Paged.Budget
import PlacedText.Proofs.Paged.Change
import PlacedText.Proofs.Paged.Edited
import PlacedText.Proofs.Paged.Inherited
import PlacedText.Proofs.Paged.Orderly
import PlacedText.Proofs.Paged.Prepended
import PlacedText.Proofs.Paged.Redrawn
import PlacedText.Proofs.Paged.Restoration
import PlacedText.Proofs.Paged.Rotation
import PlacedText.Proofs.Paged.Turns
import PlacedText.Proofs.Paged.Twins
import PlacedText.Proofs.Scalar.Ordered
import PlacedText.Proofs.Scalar.Real
import PlacedText.Proofs.Scalar.Stable
import PlacedText.Proofs.Scalar.Whole
import PlacedText.Proofs.Store.Congruence
import PlacedText.Proofs.Store.Difference
import PlacedText.Proofs.Store.Entries
import PlacedText.Proofs.Store.Holding
import PlacedText.Proofs.Store.Likeness
import PlacedText.Proofs.Store.Lookup
import PlacedText.Proofs.Store.PageContent
import PlacedText.Proofs.Store.Reading
import PlacedText.Proofs.Store.Related
import PlacedText.Proofs.Store.Turns
import PlacedText.Proofs.Store.Twins
import PlacedText.Proofs.Text.Spelling
import PlacedText.Proofs.Text.Utf16
import PlacedText.Proofs.Text.Utf8
import PlacedText.Scalar.Basic
import PlacedText.Scalar.Binary64
import PlacedText.Store.Basic
import PlacedText.Store.Filter
import PlacedText.Store.Header
import PlacedText.Store.Object
import PlacedText.Store.PageContent
import PlacedText.Store.PageTree
import PlacedText.Store.TextString
import PlacedText.Text.AlphanumericRanges
import PlacedText.Text.CharClass
import PlacedText.Text.Hexadecimal
import PlacedText.Text.Normalization
import PlacedText.Text.Normalization.CanonicalMappings
import PlacedText.Text.Normalization.CombiningClasses
import PlacedText.Text.Normalization.CompatibilityMappings
import PlacedText.Text.Quoted
import PlacedText.Text.UnprintableRanges
import PlacedText.Text.Utf16
import PlacedText.Text.Utf8
