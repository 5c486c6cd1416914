import CallAtlas.Binary64.Numeral
import CallAtlas.Binary64.Shortest
import CallAtlas.Services.Recorded
import CallAtlas.Survey
import CallAtlas.Program
import CallAtlas.World.Description
import CallAtlas.Main
import CallAtlas.Proofs.Hits.Record
import CallAtlas.Proofs.Inventory
import CallAtlas.Proofs.Survey.RowOrder
import CallAtlas.Proofs.Command.DryRun
import CallAtlas.Proofs.World.Disk
import CallAtlas.Proofs.World.Scratch
import CallAtlas.Proofs.Command.Failure
import CallAtlas.Proofs.CallGraph.Dot
import CallAtlas.Proofs.Command.Output
import CallAtlas.Proofs.Settings.Assignment
import CallAtlas.Proofs.Settings.Environment
import CallAtlas.Proofs.Settings.Respelling
import CallAtlas.Proofs.Settings.Precedence
import CallAtlas.Proofs.Command.Settings
import CallAtlas.Proofs.Span.Inference
import CallAtlas.Proofs.CallGraph.Index
import CallAtlas.Proofs.Selection
import CallAtlas.Proofs.Survey.Manifest
import CallAtlas.Proofs.Path.Label
import CallAtlas.Proofs.Tag.Output
import CallAtlas.Proofs.GlobalScope
import CallAtlas.Proofs.Reference.Row
import CallAtlas.Proofs.Frequency
import CallAtlas.Proofs.Hits.Grouping
import CallAtlas.Proofs.Path.Ending
import CallAtlas.Proofs.Path.Tidy
import CallAtlas.Proofs.CallGraph.Lifetime
import CallAtlas.Proofs.Command.Init
import CallAtlas.Proofs.Command.Status
