import Runbook.Catalog
import Runbook.Command
import Runbook.Command.Steps
import Runbook.Contexts.Placeholder
import Runbook.Contexts.Template
import Runbook.Decimal.Binary64
import Runbook.Decimal.Shortest
import Runbook.Definition.Argument
import Runbook.Definition.Builtin
import Runbook.Definition.Error
import Runbook.Definition.Fields
import Runbook.Definition.Registry
import Runbook.Definition.Value
import Runbook.Environment
import Runbook.FileTree
import Runbook.Git.Calls
import Runbook.Git.Command
import Runbook.Git.Object
import Runbook.Git.RefName
import Runbook.Git.Repository
import Runbook.Git.Revision
import Runbook.Git.WorkTree
import Runbook.Glob.Expand
import Runbook.Glob.Pattern
import Runbook.Invocation.Answer
import Runbook.Invocation.Basic
import Runbook.Invocation.Options
import Runbook.Json.Basic
import Runbook.Json.Number
import Runbook.Json.Parser
import Runbook.Json.Printer
import Runbook.Json.Skipping
import Runbook.Main
import Runbook.Presets.Basic
import Runbook.Presets.Reading
import Runbook.Proofs.Contexts.Combinations
import Runbook.Proofs.Definition.Fields
import Runbook.Proofs.Definition.Naming
import Runbook.Proofs.Definition.Rereading
import Runbook.Proofs.Definition.Resolution
import Runbook.Proofs.Git.ObjectLines
import Runbook.Proofs.Glob.Listings
import Runbook.Proofs.Grid
import Runbook.Proofs.Json.Layout
import Runbook.Proofs.Json.Scalars
import Runbook.Proofs.Json.Skipping
import Runbook.Proofs.Outcome
import Runbook.Proofs.Presets.Loading
import Runbook.Proofs.Presets.Texts
import Runbook.Proofs.Psql.ClientLines
import Runbook.Proofs.Psql.DumpPaths
import Runbook.Proofs.Psql.Replacing
import Runbook.Proofs.Run.Invocation
import Runbook.Proofs.Run.Skipping
import Runbook.Proofs.Shell.Line
import Runbook.Proofs.Sql.Conjunction
import Runbook.Proofs.Sql.Reading
import Runbook.Proofs.Sql.Tree
import Runbook.Psql.Batches
import Runbook.Psql.Database
import Runbook.Psql.Replacement
import Runbook.Psql.Session
import Runbook.Regex.Basic
import Runbook.Regex.Parser
import Runbook.Rows.Basic
import Runbook.Rows.Members
import Runbook.Run.Clock
import Runbook.Run.CommandLine
import Runbook.Run.Executors
import Runbook.Run.Log
import Runbook.Run.Runner
import Runbook.S3.Path
import Runbook.Shell.Arithmetic
import Runbook.Shell.Builtins
import Runbook.Shell.Expansion
import Runbook.Shell.Machine
import Runbook.Shell.Marks
import Runbook.Shell.Parser
import Runbook.Shell.Quoting
import Runbook.Shell.Run
import Runbook.Shell.Script
import Runbook.Shell.Tokens
import Runbook.Shell.Utilities.Basic
import Runbook.Shell.Utilities.Characters
import Runbook.Shell.Utilities.Files
import Runbook.Shell.Utilities.Filters
import Runbook.Shell.Utilities.Lines
import Runbook.Shell.Utilities.Numbers
import Runbook.Shell.Utilities.Printing
import Runbook.Shell.Utilities.Table
import Runbook.Shell.Utilities.Testing
import Runbook.Sql.Condition
import Runbook.Sql.Statement
import Runbook.Text.Alphanumeric
import Runbook.Text.Blank
import Runbook.Text.CharRanges
import Runbook.Text.Fold
import Runbook.Text.Quoted
import Runbook.Text.Split
import Runbook.Text.Unprintable
import Runbook.Text.Utf8
import Runbook.Text.Uuid
import Runbook.Text.WordChar
import Runbook.Toml.Parser
import Runbook.Toml.Printer
import Runbook.Toml.Quotes
import Runbook.Toml.Scalar
import Runbook.Toml.Table
import Runbook.Proofs.Presets.Registering
import Runbook.Proofs.Definition.GeneratorNames
import Runbook.Proofs.Psql.Lineage
import Runbook.Proofs.Run.Threshold
import Runbook.Proofs.Rows.Reachability
import Runbook.Proofs.Rows.Repeats
import Runbook.Proofs.Json.Data
import Runbook.Proofs.Toml.Arrangement
import Runbook.Proofs.Toml.Nulls
import Runbook.Proofs.Presets.Document
import Runbook.Proofs.Presets.Reloading
import Runbook.Proofs.Toml.Keys
import Runbook.Proofs.Toml.Numbers
import Runbook.Proofs.Toml.Tables
import Runbook.Proofs.Toml.Values
import Runbook.Proofs.Toml.Lines
import Runbook.Proofs.Toml.Documents
import Runbook.Proofs.Decimal.Rounding
import Runbook.Proofs.Decimal.Shortest
import Runbook.Proofs.Toml.Floats
import Runbook.Proofs.Sql.Definitions
import Runbook.Proofs.Glob.Matches
import Runbook.Proofs.Psql.Clients
import Runbook.Proofs.Shell.Literal
import Runbook.Proofs.S3.Fetching
import Runbook.Proofs.Psql.Migrations
import Runbook.Proofs.Git.Listings
import Runbook.Proofs.Command.Rendering
import Runbook.Proofs.Regex.Spans
import Runbook.Proofs.Contexts.Filling
import Runbook.Proofs.Contexts.KeyOrder
import Runbook.Proofs.Regex.Fixed
import Runbook.Proofs.Text.Identifiers
import Runbook.Proofs.Definition.ReadingBack
import Runbook.Proofs.Psql.Merging
import Runbook.Proofs.Psql.Connections
import Runbook.Proofs.Command.Reading
import Runbook.Proofs.Rows.Selecting
import Runbook.Proofs.Rows.Paths
import Runbook.Proofs.Shell.LiteralMarks
import Runbook.Proofs.Shell.DoubleQuotes
import Runbook.Proofs.Shell.EscapedWords
