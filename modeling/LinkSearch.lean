import LinkSearch.CommandLine.Arguments
import LinkSearch.CommandLine.Asking
import LinkSearch.CommandLine.Command
import LinkSearch.CommandLine.Inspection
import LinkSearch.CommandLine.Report
import LinkSearch.CommandLine.Usage
import LinkSearch.Decimal.Binary64
import LinkSearch.Decimal.Pair
import LinkSearch.Decimal.Rounded
import LinkSearch.Decimal.Significand
import LinkSearch.Files.Content
import LinkSearch.Files.Path
import LinkSearch.Files.Tree
import LinkSearch.Links.DatabaseFile
import LinkSearch.Links.Link
import LinkSearch.Links.Search
import LinkSearch.Links.Statement
import LinkSearch.Links.Store
import LinkSearch.Links.StoreName
import LinkSearch.Links.Table
import LinkSearch.Main
import LinkSearch.Output.Grid
import LinkSearch.Output.Json
import LinkSearch.Output.Listing
import LinkSearch.Query.Error
import LinkSearch.Query.Field
import LinkSearch.Query.Schema
import LinkSearch.Query.Term
import LinkSearch.Settings.Basic
import LinkSearch.Settings.Declared
import LinkSearch.Settings.Discovery
import LinkSearch.Settings.StorePath
import LinkSearch.Settings.Template
import LinkSearch.Settings.Warning
import LinkSearch.Settings.Writer
import LinkSearch.Sql.ColumnName
import LinkSearch.Sql.Expression
import LinkSearch.Sql.ExpressionReader
import LinkSearch.Sql.Fragment
import LinkSearch.Sql.Token
import LinkSearch.Sql.Value
import LinkSearch.Text.Bytes
import LinkSearch.Text.Case
import LinkSearch.Text.CharRanges
import LinkSearch.Text.Columns
import LinkSearch.Text.Emoji
import LinkSearch.Text.Ligature
import LinkSearch.Text.Line
import LinkSearch.Text.Numeral
import LinkSearch.Text.Occurrence
import LinkSearch.Text.Printable
import LinkSearch.Text.Quoted
import LinkSearch.Text.Separator
import LinkSearch.Text.Width
import LinkSearch.Toml.Plain
import LinkSearch.Toml.Quoted
import LinkSearch.Toml.Reader
import LinkSearch.Toml.Scalar
import LinkSearch.Toml.Table
import LinkSearch.Toml.Value
import LinkSearch.Proofs.Query.DirectReading
import LinkSearch.Proofs.Query.Accounting
import LinkSearch.Proofs.Query.BoundValues
import LinkSearch.Proofs.Sql.Places
import LinkSearch.Proofs.Query.Composition
import LinkSearch.Proofs.Query.Writing
import LinkSearch.Proofs.Sql.Cutting
import LinkSearch.Proofs.Query.UniqueReading
import LinkSearch.Proofs.Sql.Conditions
import LinkSearch.Proofs.Sql.Conjunctions
import LinkSearch.Proofs.Links.Selections
import LinkSearch.Proofs.Links.Searching
import LinkSearch.Proofs.Lists
import LinkSearch.Proofs.Settings.Acceptance
import LinkSearch.Proofs.Settings.Warnings
import LinkSearch.Proofs.Toml.Strings
import LinkSearch.Proofs.Toml.Documents
import LinkSearch.Proofs.Toml.Tables
import LinkSearch.Proofs.Settings.Writing
import LinkSearch.Proofs.Files.Paths
import LinkSearch.Proofs.Settings.StorePath
import LinkSearch.Proofs.Query.Outcomes
import LinkSearch.Proofs.Files.Trees
import LinkSearch.Proofs.CommandLine.Runs
import LinkSearch.Proofs.Text.Lines
import LinkSearch.Proofs.Settings.Template
import LinkSearch.Proofs.CommandLine.NewSettings
import LinkSearch.Proofs.Query.Scanning
import LinkSearch.Proofs.Query.Registry
import LinkSearch.Proofs.CommandLine.Agreement
import LinkSearch.Proofs.Sql.Embedding
import LinkSearch.Proofs.Sql.Precedence
import LinkSearch.Proofs.Query.Conjunction
import LinkSearch.Proofs.Output.BoundLists
import LinkSearch.Proofs.Output.Predicates
import LinkSearch.Proofs.Settings.Discovery
import LinkSearch.Proofs.Links.ForeignColumns
