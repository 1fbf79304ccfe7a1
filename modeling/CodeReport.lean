import CodeReport.Answer.Basic
import CodeReport.Answer.Field
import CodeReport.Answer.Reader
import CodeReport.Assembly.Entry
import CodeReport.Assembly.Keys
import CodeReport.Assembly.Report
import CodeReport.Assembly.Template
import CodeReport.Command.Failure
import CodeReport.Command.Help
import CodeReport.Command.Line
import CodeReport.Command.Parameter
import CodeReport.Command.Reporting
import CodeReport.Command.Run
import CodeReport.Command.Screen
import CodeReport.Command.Target
import CodeReport.Console.Body
import CodeReport.Console.Report
import CodeReport.Console.Sequence
import CodeReport.Console.Style
import CodeReport.Console.Wording
import CodeReport.Digest.Sha256
import CodeReport.Files.Access
import CodeReport.Files.Path
import CodeReport.Files.Tree
import CodeReport.Json.Printer
import CodeReport.Json.Reader
import CodeReport.Json.Shape
import CodeReport.Json.Value
import CodeReport.Main
import CodeReport.Number.Binary64
import CodeReport.Number.Decimal
import CodeReport.Number.Digits
import CodeReport.Number.Places
import CodeReport.Number.Shortest
import CodeReport.Output.Format
import CodeReport.Page.Body
import CodeReport.Page.Card
import CodeReport.Page.Chart
import CodeReport.Page.Document
import CodeReport.Page.Icon
import CodeReport.Page.Markup
import CodeReport.Page.Script
import CodeReport.Page.StyleSheet
import CodeReport.Program
import CodeReport.Report.Basic
import CodeReport.Report.Body
import CodeReport.Report.Json
import CodeReport.Report.Key
import CodeReport.Report.Mode
import CodeReport.Report.Severity
import CodeReport.Service.Failure
import CodeReport.Service.Request
import CodeReport.Settings.Config
import CodeReport.Settings.ConfigFile
import CodeReport.Settings.Language
import CodeReport.Settings.Resolve
import CodeReport.Settings.Toml
import CodeReport.Settings.Yaml.Document
import CodeReport.Settings.Yaml.Gap
import CodeReport.Settings.Yaml.Node
import CodeReport.Settings.Yaml.Scalar
import CodeReport.Settings.Yaml.Tag
import CodeReport.Settings.Yaml.Token
import CodeReport.Text.Blank
import CodeReport.Text.Escape
import CodeReport.Text.Letters
import CodeReport.Text.Lines
import CodeReport.Viewing.CopyNotice
import CodeReport.Viewing.Openness
import CodeReport.Viewing.Session
import CodeReport.Proofs.Keys.Distinct
import CodeReport.Proofs.Viewing.LatestAnswer
import CodeReport.Console.Unstyled
import CodeReport.Proofs.Console.Blocks
import CodeReport.Proofs.Console.Colour
import CodeReport.Text.Octets
import CodeReport.Page.Scan
import CodeReport.Page.Tree
import CodeReport.Proofs.Page.ReadBack
import CodeReport.Proofs.Page.Sealed
import CodeReport.Proofs.Json.Leaves
import CodeReport.Proofs.Json.ReadBack
import CodeReport.Proofs.Json.Shape
import CodeReport.Proofs.Report.Stored
import CodeReport.Proofs.Assembly.Outcome
import CodeReport.Proofs.Keys.Stable
import CodeReport.Proofs.Report.Notices
import CodeReport.Proofs.Page.Marked
import CodeReport.Proofs.Assembly.Tables
import CodeReport.Page.Reading
import CodeReport.Proofs.Page.Parts
import CodeReport.Proofs.Viewing.Isolation
import CodeReport.Proofs.Page.Unescaped
import CodeReport.Proofs.Page.Toggles
import CodeReport.Page.Content
import CodeReport.Proofs.Page.Search
import CodeReport.Proofs.Page.Content
import CodeReport.Proofs.Files.Writing
import CodeReport.Proofs.Command.Saved
import CodeReport.Proofs.Text.Blank
import CodeReport.Proofs.Service.Refusal
import CodeReport.Proofs.Viewing.History
import CodeReport.Proofs.Page.Embedded
import CodeReport.Proofs.Report.Placeholders
import CodeReport.Proofs.Json.Members
import CodeReport.Proofs.Json.Nulls
import CodeReport.Proofs.Answer.Parts
import CodeReport.Proofs.Answer.Correction
import CodeReport.Proofs.Answer.Hidden
import CodeReport.Proofs.Answer.Nulls
import CodeReport.Proofs.Assembly.Tabulated
import CodeReport.Proofs.Text.Letters
import CodeReport.Proofs.Viewing.Copied
import CodeReport.Proofs.Command.Collapsed
import CodeReport.Proofs.Console.Columns
import CodeReport.Proofs.Page.Kinds
import CodeReport.Proofs.Page.Links
import CodeReport.Proofs.Settings.Layers
import CodeReport.Proofs.Text.Paragraphs
import CodeReport.Proofs.Page.Classes
import CodeReport.Proofs.Page.Paragraphs
import CodeReport.Proofs.Number.Integers
import CodeReport.Proofs.Assembly.Measured
import CodeReport.Proofs.Page.Charts
import CodeReport.Proofs.Console.Percentages
import CodeReport.Proofs.Report.Percentages
import CodeReport.Proofs.Report.Metrics
import CodeReport.Proofs.Keys.Collisions
import CodeReport.Proofs.Answer.Issues
import CodeReport.Proofs.Number.Range
import CodeReport.Proofs.Number.Literals
import CodeReport.Proofs.Assembly.Confidence
