import Floorplan.Coord.Extended
import Floorplan.Coord.Rational
import Floorplan.Main
import Floorplan.Proofs.Index.History
import Floorplan.Proofs.Index.Search
import Floorplan.Proofs.Route.Call
import Floorplan.Proofs.Route.Watch
import Floorplan.Proofs.Route.Conflicts
import Floorplan.Proofs.Route.Ledger
import Floorplan.Proofs.Route.Soundness
import Floorplan.Proofs.Connect.Balance
import Floorplan.Proofs.Connect.Joined
import Floorplan.Proofs.Connect.Calls
import Floorplan.Proofs.Connect.ExtraEdges
import Floorplan.Proofs.Connect.SpanningTree
import Floorplan.Proofs.Connect.Minimal
import Floorplan.Proofs.Generate.Placing
import Floorplan.Proofs.Route.Kept
import Floorplan.Proofs.Generate.Attempts
import Floorplan.Proofs.Generate.Connected
import Floorplan.Proofs.Generate.Account
import Floorplan.Proofs.Exact
import Floorplan.Proofs.Generate.Laid
import Floorplan.Proofs.Ordered
import Floorplan.Proofs.Door.Spans
import Floorplan.Proofs.Door.Margin
import Floorplan.Proofs.Door.Offers
import Floorplan.Proofs.Generate.Valid
import Floorplan.Proofs.Generate.Doors
import Floorplan.Proofs.Grid.Map
import Floorplan.Proofs.Grid.Cells
import Floorplan.Proofs.Grid.Search
import Floorplan.Proofs.Route.First
import Floorplan.Proofs.Grid.Agreement
import Floorplan.Proofs.Grid.Calls
import Floorplan.Proofs.Random.Seed
import Floorplan.Proofs.Generate.Stream
import Floorplan.Proofs.Generate.Failures
import Floorplan.Proofs.Generate.Runs
import Floorplan.Proofs.Grid.Paths
import Floorplan.Proofs.Grid.Everywhere
import Floorplan.Proofs.Grid.Nearest
import Floorplan.Proofs.Grid.Pairs
import Floorplan.Proofs.Grid.Complete
import Floorplan.Proofs.Mirror
import Floorplan.Proofs.Double
import Floorplan.Proofs.Direct.Transposed
import Floorplan.Proofs.Direct.Strips
import Floorplan.Proofs.Direct.Joins
import Floorplan.Proofs.Json.Grammar
import Floorplan.Proofs.Json.Scan
import Floorplan.Proofs.Json.Parse
import Floorplan.Proofs.Json.Written
import Floorplan.Proofs.Json.RoundTrip
import Floorplan.Proofs.Json.Fields
import Floorplan.Proofs.Json.Overlay
import Floorplan.Proofs.Generate.Budgets
import Floorplan.Proofs.Generate.Forcing
import Floorplan.Proofs.Json.Values
import Floorplan.Words.Capacity
import Floorplan.Words.Generator
import Floorplan.Proofs.Words.Raster
import Floorplan.Proofs.Words.Path
import Floorplan.Proofs.Words.Route
import Floorplan.Proofs.Grid.Shortest
import Floorplan.Proofs.Words.Calls
import Floorplan.Proofs.Words.Limits
import Floorplan.Proofs.Words.Capacity
import Floorplan.Proofs.Words.Agreement
import Floorplan.Proofs.Words.Complete
import Floorplan.Proofs.Words.Generate
import Floorplan.Proofs.Direct.Forced
import Floorplan.Proofs.Route.Fewest
import Floorplan.Proofs.Generate.Spacing
import Floorplan.Proofs.Connect.Loops
import Floorplan.Proofs.Random.Shuffle
import Floorplan.Proofs.Text.Parts
import Floorplan.Proofs.Text.Sizes
import Floorplan.Proofs.Command.Overrides
import Floorplan.Proofs.Generate.Rows
import Floorplan.Proofs.Generate.DoorTotals
import Floorplan.Proofs.Svg.Markup
import Floorplan.Proofs.Svg.Marks
import Floorplan.Proofs.Svg.Shown
import Floorplan.Proofs.Contact
import Floorplan.Proofs.Number.Written
import Floorplan.Proofs.Number.Compact
