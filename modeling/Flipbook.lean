import Flipbook.Command
import Flipbook.CommandLine
import Flipbook.Config
import Flipbook.Frame
import Flipbook.Geometry.Rect
import Flipbook.Geometry.Scale
import Flipbook.Json.Basic
import Flipbook.Json.Decode
import Flipbook.Json.Encode
import Flipbook.Json.Key
import Flipbook.Json.Printer
import Flipbook.Layout.BarGraph
import Flipbook.Layout.Frame
import Flipbook.Layout.Grid
import Flipbook.Layout.Plane
import Flipbook.Main
import Flipbook.Notice
import Flipbook.Number.Binary64
import Flipbook.Number.Exact
import Flipbook.Number.Numeral
import Flipbook.Number.Scalar
import Flipbook.Number.Shortest
import Flipbook.Proofs.Bars
import Flipbook.Proofs.Blocks
import Flipbook.Proofs.CellRows
import Flipbook.Proofs.Checks
import Flipbook.Proofs.Commands
import Flipbook.Proofs.Commits
import Flipbook.Proofs.Conservation
import Flipbook.Proofs.Continuations
import Flipbook.Proofs.Coverage
import Flipbook.Proofs.Diagnostics
import Flipbook.Proofs.Dispatch
import Flipbook.Proofs.Drawn
import Flipbook.Proofs.Exclusivity
import Flipbook.Proofs.Extracts
import Flipbook.Proofs.Fonts
import Flipbook.Proofs.Formed
import Flipbook.Proofs.FoundBlocks
import Flipbook.Proofs.Frames
import Flipbook.Proofs.GridBlocks
import Flipbook.Proofs.Grids
import Flipbook.Proofs.Headers
import Flipbook.Proofs.Independence
import Flipbook.Proofs.Interiors
import Flipbook.Proofs.JsonFrames
import Flipbook.Proofs.LastWrites
import Flipbook.Proofs.Layouts
import Flipbook.Proofs.Legibility
import Flipbook.Proofs.LineForms
import Flipbook.Proofs.Listings
import Flipbook.Proofs.Lists
import Flipbook.Proofs.Messages
import Flipbook.Proofs.Numerals
import Flipbook.Proofs.OneLine
import Flipbook.Proofs.Ordering
import Flipbook.Proofs.Overflows
import Flipbook.Proofs.Padding
import Flipbook.Proofs.Panels
import Flipbook.Proofs.Passages
import Flipbook.Proofs.Pictures
import Flipbook.Proofs.Planes
import Flipbook.Proofs.Progress
import Flipbook.Proofs.Projections
import Flipbook.Proofs.Readings
import Flipbook.Proofs.Refusals
import Flipbook.Proofs.Relocation
import Flipbook.Proofs.Rereading
import Flipbook.Proofs.Responses
import Flipbook.Proofs.RoundTrip
import Flipbook.Proofs.Rounding
import Flipbook.Proofs.Routing
import Flipbook.Proofs.Rows
import Flipbook.Proofs.Runs
import Flipbook.Proofs.Scripts
import Flipbook.Proofs.Sessions
import Flipbook.Proofs.Sizes
import Flipbook.Proofs.Tables
import Flipbook.Proofs.Tilings
import Flipbook.Proofs.Turns
import Flipbook.Proofs.Values
import Flipbook.Proofs.Walls
import Flipbook.Proofs.WellFormed
import Flipbook.Proofs.Words
import Flipbook.Proofs.Writes
import Flipbook.Proofs.WrittenBlocks
import Flipbook.Script.BarGraph
import Flipbook.Script.Block
import Flipbook.Script.CellText
import Flipbook.Script.Context
import Flipbook.Script.Cursor
import Flipbook.Script.Grid
import Flipbook.Script.Header
import Flipbook.Script.Line
import Flipbook.Script.Outcome
import Flipbook.Script.Plane
import Flipbook.Script.Statement
import Flipbook.Script.Track
import Flipbook.Script.Vocabulary
import Flipbook.Script.Writer
import Flipbook.Source
import Flipbook.Text.Blank
import Flipbook.Text.Digit
import Flipbook.Text.Printable
import Flipbook.Text.Quoted
import Flipbook.Text.Search
import Flipbook.Text.Slice
import Flipbook.Text.Utf8
