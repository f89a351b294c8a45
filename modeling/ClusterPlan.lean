import ClusterPlan.ApplicationId
import ClusterPlan.BaseConfiguration
import ClusterPlan.Binary64.Basic
import ClusterPlan.Binary64.Shortest
import ClusterPlan.Cluster
import ClusterPlan.CommandLine.Arguments
import ClusterPlan.CommandLine.Command
import ClusterPlan.ConfigOption
import ClusterPlan.Configuration
import ClusterPlan.Console.Cells
import ClusterPlan.Console.Cells.Width
import ClusterPlan.Console.Expression.Grammar
import ClusterPlan.Console.Expression.Numeral
import ClusterPlan.Console.Expression.Pattern
import ClusterPlan.Console.Expression.Quoted
import ClusterPlan.Console.Expression.Term
import ClusterPlan.Console.Expression.Token
import ClusterPlan.Console.Grid
import ClusterPlan.Console.Line
import ClusterPlan.Console.Marked
import ClusterPlan.Console.Markup
import ClusterPlan.Console.Paragraph
import ClusterPlan.Console.Picture
import ClusterPlan.Console.Picture.Names
import ClusterPlan.Console.Style
import ClusterPlan.Duration
import ClusterPlan.Environment
import ClusterPlan.Failure
import ClusterPlan.Files.Path
import ClusterPlan.Files.Tree
import ClusterPlan.Logging
import ClusterPlan.Main
import ClusterPlan.Memory
import ClusterPlan.Moment
import ClusterPlan.Ordered
import ClusterPlan.Overlay
import ClusterPlan.Pass
import ClusterPlan.Plan.Document
import ClusterPlan.Plan.Panel
import ClusterPlan.Program
import ClusterPlan.Resolution
import ClusterPlan.Scatter
import ClusterPlan.Session
import ClusterPlan.Settings
import ClusterPlan.SettingsFile
import ClusterPlan.ShipFiles
import ClusterPlan.Text.Bytes
import ClusterPlan.Text.Case
import ClusterPlan.Text.Case.Table
import ClusterPlan.Text.CharacterName
import ClusterPlan.Text.CharacterName.Table
import ClusterPlan.Text.Decimal
import ClusterPlan.Text.Numeral
import ClusterPlan.Text.Pieces
import ClusterPlan.Text.Printable
import ClusterPlan.Text.Reader
import ClusterPlan.Text.Word
import ClusterPlan.Toml.Document
import ClusterPlan.Toml.Scalar
import ClusterPlan.Toml.Table
import ClusterPlan.Value
import ClusterPlan.Value.Order
import ClusterPlan.Yaml.Cursor
import ClusterPlan.Yaml.Document
import ClusterPlan.Yaml.Graph
import ClusterPlan.Yaml.Merge
import ClusterPlan.Yaml.Printer
import ClusterPlan.Yaml.Scalar
import ClusterPlan.Yaml.Stream
import ClusterPlan.Yaml.Tag
import ClusterPlan.Yaml.Token.Name
import ClusterPlan.Yaml.Token.Scalar
import ClusterPlan.Yaml.Token.Stream
import ClusterPlan.Proofs.Ordered
import ClusterPlan.Proofs.Writable
import ClusterPlan.Proofs.Conversion
import ClusterPlan.Proofs.Flatten
import ClusterPlan.Proofs.Stored
import ClusterPlan.Proofs.Digits
import ClusterPlan.Proofs.Trim
import ClusterPlan.Proofs.ApplicationId
import ClusterPlan.Proofs.Choices
import ClusterPlan.Proofs.Overlay
import ClusterPlan.Proofs.Session
import ClusterPlan.Proofs.Merge
import ClusterPlan.Proofs.Precedence
import ClusterPlan.Proofs.Identity
import ClusterPlan.Proofs.Slots
import ClusterPlan.Proofs.Numeral
import ClusterPlan.Proofs.Quantity
import ClusterPlan.Proofs.SizeGrammar
import ClusterPlan.Proofs.DurationText
import ClusterPlan.Proofs.Format
import ClusterPlan.Proofs.Reread
import ClusterPlan.Proofs.Rounding
import ClusterPlan.Proofs.ExactQuotient
import ClusterPlan.Proofs.SizeRounding
import ClusterPlan.Proofs.Sequence
import ClusterPlan.Proofs.Rejection
import ClusterPlan.Proofs.Reported
import ClusterPlan.Proofs.Overrides
import ClusterPlan.Proofs.RepeatedOverrides
import ClusterPlan.Proofs.Pieces
import ClusterPlan.Proofs.Lines
import ClusterPlan.Proofs.Assignment
import ClusterPlan.Proofs.Properties
import ClusterPlan.Proofs.SessionTexts
import ClusterPlan.Proofs.SessionGrammar
import ClusterPlan.Proofs.SessionRoundTrip
import ClusterPlan.Proofs.FixedPoint
import ClusterPlan.Proofs.LoadedSession
import ClusterPlan.Proofs.Counterpart
import ClusterPlan.Proofs.Path
import ClusterPlan.Proofs.FileTree
import ClusterPlan.Proofs.ShipFiles
import ClusterPlan.Proofs.ShipFileCheck
import ClusterPlan.Proofs.YamlDocument
import ClusterPlan.Proofs.BaseConfiguration
import ClusterPlan.Proofs.Document
import ClusterPlan.Proofs.Cells
import ClusterPlan.Proofs.Markup
import ClusterPlan.Proofs.Grid
import ClusterPlan.Proofs.Panel
import ClusterPlan.Proofs.PanelSettings
import ClusterPlan.Proofs.PanelContent
import ClusterPlan.Proofs.Run
import ClusterPlan.Proofs.Namespace
import ClusterPlan.Proofs.Settings
