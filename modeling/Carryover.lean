import Carryover.Artifact.Basic
import Carryover.Artifact.Command
import Carryover.Artifact.Container
import Carryover.Artifact.EntryPoint
import Carryover.Artifact.Inventory
import Carryover.Artifact.LazyUpdater
import Carryover.Artifact.StateModule
import Carryover.Decimal.Notation
import Carryover.Decimal.Shortest
import Carryover.Files.Host
import Carryover.Files.Location
import Carryover.Files.Path
import Carryover.Files.Save
import Carryover.Files.Tree
import Carryover.Json.Number
import Carryover.Json.Printer
import Carryover.Json.Problem
import Carryover.Json.Reader
import Carryover.Json.Symbol
import Carryover.Json.Text
import Carryover.Json.Tree
import Carryover.Json.Walk
import Carryover.Keyed
import Carryover.Main
import Carryover.Model.Basic
import Carryover.Model.Defect
import Carryover.Model.Document
import Carryover.Model.Generated
import Carryover.Model.Name
import Carryover.Model.Validity
import Carryover.Program.Arguments
import Carryover.Program.Collect
import Carryover.Program.Generation
import Carryover.Program.Generator
import Carryover.Program.Load
import Carryover.Program.Outline
import Carryover.Program.Report
import Carryover.Proofs.Artifact.Assembly
import Carryover.Proofs.Artifact.Binding
import Carryover.Proofs.Artifact.Captured
import Carryover.Proofs.Artifact.Code
import Carryover.Proofs.Artifact.Forwarding
import Carryover.Proofs.Artifact.Hooks
import Carryover.Proofs.Artifact.Identifiers
import Carryover.Proofs.Artifact.Increment
import Carryover.Proofs.Artifact.Inventory
import Carryover.Proofs.Artifact.Layout
import Carryover.Proofs.Artifact.ModuleLayout
import Carryover.Proofs.Artifact.Names
import Carryover.Proofs.Artifact.Shadowing
import Carryover.Proofs.Artifact.Storage
import Carryover.Proofs.Artifact.TypeNames
import Carryover.Proofs.Files.Alike
import Carryover.Proofs.Files.FileSystem
import Carryover.Proofs.Files.Folders
import Carryover.Proofs.Files.Kept
import Carryover.Proofs.Files.LastSaved
import Carryover.Proofs.Files.Path
import Carryover.Proofs.Files.Place
import Carryover.Proofs.Files.Plain
import Carryover.Proofs.Files.Saved
import Carryover.Proofs.Files.Search
import Carryover.Proofs.Generation.Carried
import Carryover.Proofs.Generation.Counter
import Carryover.Proofs.Generation.Entry
import Carryover.Proofs.Generation.Label
import Carryover.Proofs.Generation.Life
import Carryover.Proofs.Generation.Request
import Carryover.Proofs.Generation.Slots
import Carryover.Proofs.Generation.Stage
import Carryover.Proofs.Handler.Behaviour
import Carryover.Proofs.Handler.Conservation
import Carryover.Proofs.Handler.Ending
import Carryover.Proofs.Handler.Independence
import Carryover.Proofs.Handler.Interruption
import Carryover.Proofs.Json.Accepted
import Carryover.Proofs.Json.Grammar
import Carryover.Proofs.Json.Meaning
import Carryover.Proofs.Json.Records
import Carryover.Proofs.Json.Scanned
import Carryover.Proofs.Json.Spelling
import Carryover.Proofs.Json.Walked
import Carryover.Proofs.Json.Written
import Carryover.Proofs.Model.Described
import Carryover.Proofs.Model.Earlier
import Carryover.Proofs.Model.Growth
import Carryover.Proofs.Model.Name
import Carryover.Proofs.Model.Parameter
import Carryover.Proofs.Model.RoundTrip
import Carryover.Proofs.Model.Tally
import Carryover.Proofs.Model.WellFormed
import Carryover.Proofs.Program.Account
import Carryover.Proofs.Program.Collected
import Carryover.Proofs.Program.Confined
import Carryover.Proofs.Program.Isolation
import Carryover.Proofs.Program.Modules
import Carryover.Proofs.Program.Verdicts
import Carryover.Proofs.Source.Bracket
import Carryover.Proofs.Source.Calls
import Carryover.Proofs.Source.Layout
import Carryover.Proofs.Text.Case
import Carryover.Proofs.Text.Humps
import Carryover.Proofs.Text.Word
import Carryover.Source.Buffer
import Carryover.Source.Line
import Carryover.Source.Vocabulary
import Carryover.State.Box
import Carryover.State.Command
import Carryover.State.Component
import Carryover.State.Context
import Carryover.State.Kind
import Carryover.State.Queue
import Carryover.State.Replay
import Carryover.Text.Blank
import Carryover.Text.Case
import Carryover.Text.Case.Table
import Carryover.Text.Quoted
import Carryover.Text.Quoted.Table
import Carryover.Text.Split
import Carryover.Text.Word
