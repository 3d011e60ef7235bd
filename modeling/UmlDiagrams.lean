import UmlDiagrams.Arguments
import UmlDiagrams.Calendar.Date
import UmlDiagrams.Calendar.Instant
import UmlDiagrams.Change
import UmlDiagrams.Collection
import UmlDiagrams.Color
import UmlDiagrams.Config
import UmlDiagrams.Decimal.Single
import UmlDiagrams.Diagram.Class
import UmlDiagrams.Diagram.Entity
import UmlDiagrams.Diagram.Flow
import UmlDiagrams.Diagram.Relation
import UmlDiagrams.Diagram.Sequence
import UmlDiagrams.Diagram.State
import UmlDiagrams.Diagram.UseCase
import UmlDiagrams.Document.Basic
import UmlDiagrams.Document.Decode
import UmlDiagrams.Document.Format
import UmlDiagrams.Document.Replay
import UmlDiagrams.Export
import UmlDiagrams.Failure
import UmlDiagrams.Files
import UmlDiagrams.Graph.Basic
import UmlDiagrams.Graph.Edits
import UmlDiagrams.Id
import UmlDiagrams.Json.Reader
import UmlDiagrams.Json.Token
import UmlDiagrams.Json.Value
import UmlDiagrams.Kind
import UmlDiagrams.Main
import UmlDiagrams.Member
import UmlDiagrams.Naming
import UmlDiagrams.OutputFormat
import UmlDiagrams.Path
import UmlDiagrams.Program
import UmlDiagrams.Proofs.Calendar.Days
import UmlDiagrams.Proofs.Calendar.Stamps
import UmlDiagrams.Proofs.Changes
import UmlDiagrams.Proofs.Diagram.Effects
import UmlDiagrams.Proofs.Diagram.Keeps
import UmlDiagrams.Proofs.Diagram.Named
import UmlDiagrams.Proofs.Diagram.Notices
import UmlDiagrams.Proofs.Diagram.Recorded
import UmlDiagrams.Proofs.Diagram.Renumbered
import UmlDiagrams.Proofs.Document.Apply
import UmlDiagrams.Proofs.Document.Decoding
import UmlDiagrams.Proofs.Document.Ends
import UmlDiagrams.Proofs.Document.Formats
import UmlDiagrams.Proofs.Document.Joins
import UmlDiagrams.Proofs.Document.Listing
import UmlDiagrams.Proofs.Document.Members
import UmlDiagrams.Proofs.Document.Names
import UmlDiagrams.Proofs.Document.Order
import UmlDiagrams.Proofs.Document.Parts
import UmlDiagrams.Proofs.Document.Prefix
import UmlDiagrams.Proofs.Document.Records
import UmlDiagrams.Proofs.Document.Repetition
import UmlDiagrams.Proofs.Document.Replay
import UmlDiagrams.Proofs.Document.RoundTrip
import UmlDiagrams.Proofs.Document.Sections
import UmlDiagrams.Proofs.Document.Spelling
import UmlDiagrams.Proofs.Document.Styles
import UmlDiagrams.Proofs.Document.Writing
import UmlDiagrams.Proofs.Effects
import UmlDiagrams.Proofs.Graph.Checks
import UmlDiagrams.Proofs.Graph.Edits
import UmlDiagrams.Proofs.Graph.Effects
import UmlDiagrams.Proofs.Graph.Keeps
import UmlDiagrams.Proofs.Graph.Likeness
import UmlDiagrams.Proofs.Graph.Listing
import UmlDiagrams.Proofs.Graph.NewEdges
import UmlDiagrams.Proofs.Graph.Notices
import UmlDiagrams.Proofs.Graph.Rewiring
import UmlDiagrams.Proofs.Graph.RoundTrip
import UmlDiagrams.Proofs.Graph.Sound
import UmlDiagrams.Proofs.Graph.Translation
import UmlDiagrams.Proofs.Lists
import UmlDiagrams.Proofs.Mirrors
import UmlDiagrams.Proofs.Naming
import UmlDiagrams.Proofs.NewNames
import UmlDiagrams.Proofs.Outcome
import UmlDiagrams.Proofs.Program.Endings
import UmlDiagrams.Proofs.Program.Extensions
import UmlDiagrams.Proofs.Program.FileNames
import UmlDiagrams.Proofs.Program.Files
import UmlDiagrams.Proofs.Program.Outputs
import UmlDiagrams.Proofs.Program.Paths
import UmlDiagrams.Proofs.Relabeling
import UmlDiagrams.Proofs.Renaming
import UmlDiagrams.Proofs.Results
import UmlDiagrams.Proofs.Session.Generation
import UmlDiagrams.Proofs.Session.Output
import UmlDiagrams.Proofs.Session.Run
import UmlDiagrams.Proofs.Session.Tickets
import UmlDiagrams.Proofs.Simulation
import UmlDiagrams.Proofs.Source.Colors
import UmlDiagrams.Proofs.Source.Count
import UmlDiagrams.Proofs.Source.Drawing
import UmlDiagrams.Proofs.Source.Emptiness
import UmlDiagrams.Proofs.Source.Enclosure
import UmlDiagrams.Proofs.Source.Layouts
import UmlDiagrams.Proofs.Source.Lines
import UmlDiagrams.Proofs.Source.LocalEdits
import UmlDiagrams.Proofs.Source.Outline
import UmlDiagrams.Proofs.Source.Resolves
import UmlDiagrams.Proofs.Source.Sheet
import UmlDiagrams.Proofs.Source.Store
import UmlDiagrams.Proofs.Source.Strokes
import UmlDiagrams.Proofs.Stateful
import UmlDiagrams.Proofs.Store.Addresses
import UmlDiagrams.Proofs.Store.Deeds
import UmlDiagrams.Proofs.Store.Effects
import UmlDiagrams.Proofs.Store.Epoch
import UmlDiagrams.Proofs.Store.Given
import UmlDiagrams.Proofs.Store.Handles
import UmlDiagrams.Proofs.Store.Isolation
import UmlDiagrams.Proofs.Store.NewEdges
import UmlDiagrams.Proofs.Store.Nodes
import UmlDiagrams.Proofs.Store.Notices
import UmlDiagrams.Proofs.Store.Recordings
import UmlDiagrams.Proofs.Store.Records
import UmlDiagrams.Proofs.Store.References
import UmlDiagrams.Proofs.Store.Register
import UmlDiagrams.Proofs.Store.Removals
import UmlDiagrams.Proofs.Store.Renewal
import UmlDiagrams.Proofs.Store.Renumbered
import UmlDiagrams.Proofs.Store.Reversal
import UmlDiagrams.Proofs.Store.Rewiring
import UmlDiagrams.Proofs.Store.Slots
import UmlDiagrams.Proofs.Store.Sound
import UmlDiagrams.Proofs.Store.Style
import UmlDiagrams.Proofs.Text.Ascii
import UmlDiagrams.Proofs.Text.Folding
import UmlDiagrams.Proofs.Text.Interiors
import UmlDiagrams.Proofs.Text.Lines
import UmlDiagrams.Proofs.Text.Printed
import UmlDiagrams.Proofs.Text.Replacing
import UmlDiagrams.Proofs.Text.Tokens
import UmlDiagrams.Proofs.Text.Trim
import UmlDiagrams.Proofs.Tree.Reading
import UmlDiagrams.Proofs.Tree.Scripts
import UmlDiagrams.Proofs.Tree.Spelling
import UmlDiagrams.Proofs.Tree.Writing
import UmlDiagrams.Proofs.UseCase.Edits
import UmlDiagrams.Proofs.UseCase.Effects
import UmlDiagrams.Proofs.UseCase.Keeps
import UmlDiagrams.Proofs.UseCase.Listing
import UmlDiagrams.Proofs.UseCase.Renumbered
import UmlDiagrams.Rejection
import UmlDiagrams.Renderer
import UmlDiagrams.Reply
import UmlDiagrams.Run
import UmlDiagrams.Session
import UmlDiagrams.Source
import UmlDiagrams.Stateful
import UmlDiagrams.Store
import UmlDiagrams.Style
import UmlDiagrams.Text.Blank
import UmlDiagrams.Text.Digits
import UmlDiagrams.Text.Hex
import UmlDiagrams.Text.Invisible
import UmlDiagrams.Text.Literal
import UmlDiagrams.Text.Lossy
import UmlDiagrams.Text.Printed
import UmlDiagrams.Toml.Bare
import UmlDiagrams.Toml.Quoted
import UmlDiagrams.Toml.Reader
import UmlDiagrams.Toml.Reading
import UmlDiagrams.Toml.Token
import UmlDiagrams.Toml.Value
import UmlDiagrams.Tree.Reader
import UmlDiagrams.Usage
import UmlDiagrams.Yaml.Cell
import UmlDiagrams.Yaml.Node
import UmlDiagrams.Yaml.Reader
import UmlDiagrams.Yaml.Scalar
import UmlDiagrams.Yaml.Tag
import UmlDiagrams.Yaml.Token
