import RestConfig.Text.Blank
import RestConfig.Text.Printable
import RestConfig.Text.Quoted
import RestConfig.Text.Digit
import RestConfig.Text.Utf8
import RestConfig.Text.Newline
import RestConfig.Number.Binary64
import RestConfig.Number.Shortest
import RestConfig.Number.Text
import RestConfig.Number.Reading
import RestConfig.Value.Basic
import RestConfig.Value.Text
import RestConfig.Value.Order
import RestConfig.Value.Written
import RestConfig.Failure
import RestConfig.Depth
import RestConfig.Setting.Basic
import RestConfig.Setting.Read
import RestConfig.Constraint
import RestConfig.Schema.Key
import RestConfig.Schema.Basic
import RestConfig.Schema.Docs
import RestConfig.Proxy.Keys
import RestConfig.Proxy.Consumer
import RestConfig.Proxy.Settings
import RestConfig.Text.Case
import RestConfig.Text.Word
import RestConfig.Source.Properties
import RestConfig.Source.Environment
import RestConfig.Source.Flatten
import RestConfig.Source.Files
import RestConfig.Toml.Tree
import RestConfig.Toml.Scalar
import RestConfig.Toml.Document
import RestConfig.Yaml.Stream
import RestConfig.Yaml.Token
import RestConfig.Yaml.Token.Scan
import RestConfig.Yaml.Event
import RestConfig.Yaml.Event.Parse
import RestConfig.Yaml.Tag
import RestConfig.Yaml.Node
import RestConfig.Text.Base64
import RestConfig.Yaml.Data
import RestConfig.Yaml.Document
import RestConfig.Source.Load
import RestConfig.Log.Redact
import RestConfig.Value.Json
import RestConfig.Value.JsonRead
import RestConfig.Number.Places
import RestConfig.Value.Interpolate
import RestConfig.Instant
import RestConfig.Log.Level
import RestConfig.Log.Record
import RestConfig.Log.Session
import RestConfig.Clock
import RestConfig.Console.Table
import RestConfig.Console.Exit
import RestConfig.Console.Grammar
import RestConfig.Console.Help
import RestConfig.Console.Arguments
import RestConfig.Console.Commands
import RestConfig.Main
import RestConfig.Proofs.Basic
import RestConfig.Proofs.Validation
import RestConfig.Proofs.Resolution
import RestConfig.Proofs.Rendering
import RestConfig.Proofs.RoundTrip
import RestConfig.Proofs.PropertiesText
import RestConfig.Proofs.UnreadNames
import RestConfig.Proofs.IntegerReadings
import RestConfig.Proofs.ReadingFailures
import RestConfig.Proofs.EnvironmentNames
import RestConfig.Proofs.SourcePrecedence
import RestConfig.Proofs.LoggingLifecycle
import RestConfig.Proofs.MaskedAssignments
import RestConfig.Proofs.RedactedValues
import RestConfig.Proofs.CommandLine
import RestConfig.Proofs.ValidateCommand
import RestConfig.Proofs.FailureChains
import RestConfig.Proofs.SchemaTable
import RestConfig.Proofs.BinaryRounding
import RestConfig.Proofs.DefaultFixpoints
import RestConfig.Proofs.ShortestDigits
import RestConfig.Proofs.FloatText
import RestConfig.Proofs.JsonRoundTrip
import RestConfig.Proofs.JsonLogLines
import RestConfig.Proofs.WholeNumbers
import RestConfig.Proofs.TypedSettings
import RestConfig.Proofs.RenderedSettings
import RestConfig.Proofs.ConsumerRules
import RestConfig.Proofs.StringifiedValues
import RestConfig.Proofs.TableLayout
import RestConfig.Proofs.DocumentedKeys
import RestConfig.Proofs.FlatProperties
import RestConfig.Proofs.ClockRuns
import RestConfig.Proofs.LogicalLines
