import LosslessBuffer.Asic.Accounting
import LosslessBuffer.Asic.Family
import LosslessBuffer.Asic.Registers
import LosslessBuffer.Buffer.BindingKey
import LosslessBuffer.Buffer.Config
import LosslessBuffer.Buffer.Decode
import LosslessBuffer.Calculation
import LosslessBuffer.Calendar.Timestamp
import LosslessBuffer.CommandLine.Args
import LosslessBuffer.CommandLine.Directory
import LosslessBuffer.CommandLine.Logging
import LosslessBuffer.CommandLine.Program
import LosslessBuffer.CommandLine.RunProfile
import LosslessBuffer.CommandLine.Settings
import LosslessBuffer.CommandLine.Usage
import LosslessBuffer.Decimal.Format
import LosslessBuffer.Decimal.Read
import LosslessBuffer.Decimal.Shortest
import LosslessBuffer.Dotenv.Reader
import LosslessBuffer.DynamicThreshold
import LosslessBuffer.Fault
import LosslessBuffer.Journal
import LosslessBuffer.Json.Reader
import LosslessBuffer.Main
import LosslessBuffer.Override
import LosslessBuffer.Params.Assembly
import LosslessBuffer.Params.Basic
import LosslessBuffer.Params.Codec
import LosslessBuffer.Params.Decode
import LosslessBuffer.Params.Defaults
import LosslessBuffer.Params.Encode
import LosslessBuffer.Params.Text
import LosslessBuffer.Proofs.Accounting
import LosslessBuffer.Proofs.Assembly
import LosslessBuffer.Proofs.BindingKeys
import LosslessBuffer.Proofs.AssemblyLog
import LosslessBuffer.Proofs.Calculation
import LosslessBuffer.Proofs.CarveOuts
import LosslessBuffer.Proofs.Cells
import LosslessBuffer.Proofs.Clone
import LosslessBuffer.Proofs.Completion
import LosslessBuffer.Proofs.CompletionTrace
import LosslessBuffer.Proofs.Defaulting
import LosslessBuffer.Proofs.DigitRuns
import LosslessBuffer.Proofs.KeyBytes
import LosslessBuffer.Proofs.Maps
import LosslessBuffer.Proofs.Outcome
import LosslessBuffer.Proofs.Records
import LosslessBuffer.Proofs.RegisterOverride
import LosslessBuffer.Proofs.ReferenceChoice
import LosslessBuffer.Proofs.RoundTrip
import LosslessBuffer.Proofs.ScenarioKeys
import LosslessBuffer.Proofs.ScenarioOrder
import LosslessBuffer.Proofs.Share
import LosslessBuffer.Proofs.SortedKeys
import LosslessBuffer.Proofs.Step
import LosslessBuffer.Proofs.Subtractive
import LosslessBuffer.Proofs.TraceAgreement
import LosslessBuffer.Proofs.Watermarks
import LosslessBuffer.Quantizer
import LosslessBuffer.Scenario.Key
import LosslessBuffer.Text.Bytes
import LosslessBuffer.Text.Case
import LosslessBuffer.Text.Category
import LosslessBuffer.Text.Integer
import LosslessBuffer.Text.Quoted
import LosslessBuffer.Text.Search
import LosslessBuffer.Toml.Item
import LosslessBuffer.Toml.Moment
import LosslessBuffer.Toml.Reader
import LosslessBuffer.Toml.Seen
import LosslessBuffer.Toml.Token
import LosslessBuffer.Trace
import LosslessBuffer.Trace.Encode
import LosslessBuffer.Yaml.Character
import LosslessBuffer.Yaml.Decode
import LosslessBuffer.Yaml.Decode.Compound
import LosslessBuffer.Yaml.Encode
import LosslessBuffer.Yaml.Node
import LosslessBuffer.Yaml.Node.Reader
import LosslessBuffer.Yaml.Scalar
import LosslessBuffer.Yaml.Scalar.Style
import LosslessBuffer.Yaml.Token
import LosslessBuffer.Yaml.Token.Lexer
import LosslessBuffer.Yaml.Tree
import LosslessBuffer.Yaml.Tree.Printer
import LosslessBuffer.Yaml.Value
import LosslessBuffer.Yaml.Value.Order
