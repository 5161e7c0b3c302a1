import Guidebook.Main
import Guidebook.Proofs.Block.Fences
import Guidebook.Proofs.Block.Lists
import Guidebook.Proofs.Block.Quotes
import Guidebook.Proofs.Block.Tables
import Guidebook.Proofs.Code.JsonStrings
import Guidebook.Proofs.Code.Plain
import Guidebook.Proofs.Span.Depth
import Guidebook.Proofs.Span.SpentClosers
import Guidebook.Proofs.Span.Writing
import Guidebook.Proofs.Typst.Decoding
import Guidebook.Proofs.Typst.Keeping
import Guidebook.Proofs.Typst.Nesting
import Guidebook.Proofs.Theme.Overrides
import Guidebook.Proofs.Json.Reading
import Guidebook.Proofs.Json.Tree
import Guidebook.Proofs.Theme.Colors
import Guidebook.Proofs.Span.Canonical
import Guidebook.Proofs.Span.MatchedStars
import Guidebook.Proofs.Span.ReadBack
import Guidebook.Proofs.Span.Containment
import Guidebook.Proofs.Block.Paragraphs
import Guidebook.Proofs.Block.Spacing
import Guidebook.Proofs.Text.LineEnds
import Guidebook.Proofs.Code.Frozen
import Guidebook.Proofs.Code.LineMatches
import Guidebook.Proofs.Typst.Listings
import Guidebook.Proofs.Typst.Bundles
import Guidebook.Proofs.Block.ItemContents
import Guidebook.Proofs.Typst.Grid
import Guidebook.Proofs.Typst.ItemLines
import Guidebook.Proofs.Typst.Passages
import Guidebook.Proofs.Typst.BlockMarkers
import Guidebook.Proofs.Typst.InlineText
import Guidebook.Proofs.Block.ItemMarks
import Guidebook.Proofs.Span.StarRuns
import Guidebook.Proofs.Span.ScannerSafety
