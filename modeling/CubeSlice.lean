import CubeSlice.Main
import CubeSlice.Proofs.Slice.Coverage
import CubeSlice.Proofs.Slice.Acceptance
import CubeSlice.Proofs.Number.Nearest
import CubeSlice.Proofs.Payload
import CubeSlice.Proofs.Npy.Dictionary
import CubeSlice.Proofs.Npy.File
import CubeSlice.Proofs.Tile.Agreement
import CubeSlice.Proofs.Client
import CubeSlice.Proofs.Command.Preparation
import CubeSlice.Proofs.Command.Fetch
import CubeSlice.Proofs.Command.Outcome
import CubeSlice.Proofs.Command.Override
import CubeSlice.Proofs.Slice.Precision
import CubeSlice.Proofs.Slice.Painting
import CubeSlice.Proofs.Slice.Reordering
import CubeSlice.Proofs.Number.Numeral
import CubeSlice.Proofs.Command.Grammar
import CubeSlice.Proofs.Number.Decimal
import CubeSlice.Proofs.Number.Literal
import CubeSlice.Proofs.Number.Text
import CubeSlice.Proofs.Json.Lexing
import CubeSlice.Proofs.Json.Reading
import CubeSlice.Proofs.Slice.Elements
import CubeSlice.Proofs.Slice.Json
import CubeSlice.Proofs.Slice.Summary
import CubeSlice.Proofs.Alongside
import CubeSlice.Proofs.Command.Trace
import CubeSlice.Proofs.Command.Appending
import CubeSlice.Proofs.Command.Beside
import CubeSlice.Proofs.Command.Transposing
import CubeSlice.Proofs.Command.Levels
import CubeSlice.Proofs.Command.Deriving
import CubeSlice.Proofs.Tile.Exhaustive
import CubeSlice.Proofs.Number.Reading
import CubeSlice.Proofs.Slice.Csv
import CubeSlice.Proofs.Json.Ordered
import CubeSlice.Proofs.Token.Base64Url
import CubeSlice.Proofs.Token.Reading
import CubeSlice.Proofs.Calls
import CubeSlice.Proofs.Tile.Walking
import CubeSlice.Proofs.Slice.Access
import CubeSlice.Proofs.Slice.Statistics
import CubeSlice.Proofs.Url.Join
import CubeSlice.Proofs.Url.Dots
import CubeSlice.Proofs.Confinement
import CubeSlice.Proofs.Number.Floor
import CubeSlice.Proofs.Number.Integers
import CubeSlice.Proofs.Token.Expiry
import CubeSlice.Proofs.Number.Natural
import CubeSlice.Proofs.Settings
import CubeSlice.Proofs.Command.Lifetime
import CubeSlice.Proofs.Shape
import CubeSlice.Proofs.Slice.OutputFormat
import CubeSlice.Proofs.Command.Writing
import CubeSlice.Proofs.Json.Arrangement
import CubeSlice.Proofs.Rules
import CubeSlice.Proofs.Cube
import CubeSlice.Proofs.Number.SixDigits
import CubeSlice.Proofs.Number.Printed
import CubeSlice.Proofs.Slice.Line
