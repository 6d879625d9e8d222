import LiveTemplates.Assoc
import LiveTemplates.Cache.Counters
import LiveTemplates.Cache.Rehearsal
import LiveTemplates.Cache.SingleFlight
import LiveTemplates.Cache.Traffic
import LiveTemplates.CommandLine.Arguments
import LiveTemplates.CommandLine.Help
import LiveTemplates.CommandLine.Run
import LiveTemplates.Config.Basic
import LiveTemplates.Config.Environment
import LiveTemplates.Config.Fault
import LiveTemplates.Config.File
import LiveTemplates.Config.Imports
import LiveTemplates.Config.Ini
import LiveTemplates.Config.Json
import LiveTemplates.Config.Properties
import LiveTemplates.Config.Setting
import LiveTemplates.Config.Toml
import LiveTemplates.Config.Yaml
import LiveTemplates.Config.Yaml.Node
import LiveTemplates.Config.Yaml.Progress
import LiveTemplates.Config.Yaml.Property
import LiveTemplates.Config.Yaml.Scalar
import LiveTemplates.Config.Yaml.Token
import LiveTemplates.Config.Yaml.Tokens
import LiveTemplates.Decimal.Double
import LiveTemplates.Decimal.Notation
import LiveTemplates.Decimal.Reading
import LiveTemplates.Decimal.Shortest
import LiveTemplates.Dictionary
import LiveTemplates.Encoding
import LiveTemplates.Engine.Basic
import LiveTemplates.Engine.Caches
import LiveTemplates.Engine.Concurrent
import LiveTemplates.Engine.Operation
import LiveTemplates.Engine.Template
import LiveTemplates.Error
import LiveTemplates.Files.Fault
import LiveTemplates.Files.Path
import LiveTemplates.Files.Tree
import LiveTemplates.Fingerprint
import LiveTemplates.Json.Parser
import LiveTemplates.Json.Printer
import LiveTemplates.Json.Value
import LiveTemplates.Language.Expression
import LiveTemplates.Language.Helper
import LiveTemplates.Language.Item
import LiveTemplates.Language.Layout
import LiveTemplates.Language.Render
import LiveTemplates.Language.RenderFault
import LiveTemplates.Language.Rendered
import LiveTemplates.Language.Scope
import LiveTemplates.Language.Template
import LiveTemplates.Lifecycle
import LiveTemplates.Lifecycle.Operation
import LiveTemplates.Loader.Basic
import LiveTemplates.Loader.Memory
import LiveTemplates.Main
import LiveTemplates.Name
import LiveTemplates.Program
import LiveTemplates.Proofs.Assoc
import LiveTemplates.Proofs.Cache.Accounting
import LiveTemplates.Proofs.Cache.Callers
import LiveTemplates.Proofs.Cache.Conservation
import LiveTemplates.Proofs.Cache.Entries
import LiveTemplates.Proofs.Cache.History
import LiveTemplates.Proofs.Cache.Landing
import LiveTemplates.Proofs.Cache.Mapping
import LiveTemplates.Proofs.Cache.Newcomers
import LiveTemplates.Proofs.Cache.Outcome
import LiveTemplates.Proofs.Cache.Patience
import LiveTemplates.Proofs.Cache.Replies
import LiveTemplates.Proofs.Cache.Separation
import LiveTemplates.Proofs.Cache.Settled
import LiveTemplates.Proofs.Cache.Unheard
import LiveTemplates.Proofs.Config.AnyOrder
import LiveTemplates.Proofs.Config.Fields
import LiveTemplates.Proofs.Config.JsonForm
import LiveTemplates.Proofs.Config.Listed
import LiveTemplates.Proofs.Config.Override
import LiveTemplates.Proofs.Config.Padding
import LiveTemplates.Proofs.Crowd.Absence
import LiveTemplates.Proofs.Crowd.Closing
import LiveTemplates.Proofs.Crowd.Course
import LiveTemplates.Proofs.Crowd.Fresh
import LiveTemplates.Proofs.Crowd.Generations
import LiveTemplates.Proofs.Crowd.Lookups
import LiveTemplates.Proofs.Crowd.Makings
import LiveTemplates.Proofs.Crowd.Moments
import LiveTemplates.Proofs.Crowd.Side
import LiveTemplates.Proofs.Crowd.Steps
import LiveTemplates.Proofs.Crowd.Trust
import LiveTemplates.Proofs.Crowd.Waiting
import LiveTemplates.Proofs.Decimal.Numeral
import LiveTemplates.Proofs.Dictionary.Order
import LiveTemplates.Proofs.Engine.Afresh
import LiveTemplates.Proofs.Engine.Aside
import LiveTemplates.Proofs.Engine.Belonging
import LiveTemplates.Proofs.Engine.Confined
import LiveTemplates.Proofs.Engine.Copies
import LiveTemplates.Proofs.Engine.Layers
import LiveTemplates.Proofs.Engine.Lookup
import LiveTemplates.Proofs.Engine.Missing
import LiveTemplates.Proofs.Engine.Paired
import LiveTemplates.Proofs.Engine.Reload
import LiveTemplates.Proofs.Engine.Renumbering
import LiveTemplates.Proofs.Engine.Retry
import LiveTemplates.Proofs.Engine.Session
import LiveTemplates.Proofs.Engine.Steady
import LiveTemplates.Proofs.Engine.Stores
import LiveTemplates.Proofs.Files.Writing
import LiveTemplates.Proofs.Json.Printed
import LiveTemplates.Proofs.Json.Reading
import LiveTemplates.Proofs.Language.Repetition
import LiveTemplates.Proofs.Language.Shown
import LiveTemplates.Proofs.Language.Unescaped
import LiveTemplates.Proofs.Lifecycle.Filling
import LiveTemplates.Proofs.Lifecycle.Holding
import LiveTemplates.Proofs.Lifecycle.Keeping
import LiveTemplates.Proofs.Lifecycle.Served
import LiveTemplates.Proofs.Loader.Faithful
import LiveTemplates.Proofs.Loader.Marks
import LiveTemplates.Proofs.Loader.Modified
import LiveTemplates.Proofs.Loader.Probe
import LiveTemplates.Proofs.Loader.Revisions
import LiveTemplates.Proofs.Loader.Rooted
import LiveTemplates.Proofs.Name.Canonical
import LiveTemplates.Proofs.Name.Matching
import LiveTemplates.Proofs.Name.Respelling
import LiveTemplates.Proofs.Symbols.AnyOrder
import LiveTemplates.Proofs.Symbols.Declared
import LiveTemplates.Proofs.Symbols.Guarding
import LiveTemplates.Proofs.Symbols.Packages
import LiveTemplates.Proofs.Symbols.Registration
import LiveTemplates.Proofs.Text.Trimmed
import LiveTemplates.Proofs.Text.Words
import LiveTemplates.Proofs.Units.Copies
import LiveTemplates.Proofs.Units.InUse
import LiveTemplates.Proofs.Units.Places
import LiveTemplates.Resource
import LiveTemplates.Symbols.Builtin
import LiveTemplates.Symbols.Fault
import LiveTemplates.Symbols.Global
import LiveTemplates.Symbols.Provider
import LiveTemplates.Symbols.Table
import LiveTemplates.Text.Blank
import LiveTemplates.Text.Case
import LiveTemplates.Text.CaseTables
import LiveTemplates.Text.Cursor
import LiveTemplates.Text.Letter
import LiveTemplates.Text.LetterTables
import LiveTemplates.Text.PrintableTables
import LiveTemplates.Text.Quoted
import LiveTemplates.Text.Ranges
import LiveTemplates.Text.Utf8
import LiveTemplates.Units
import LiveTemplates.Units.Operation
