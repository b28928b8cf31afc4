import CognitiveKernel.Basis
import CognitiveKernel.Binary64.Basic
import CognitiveKernel.Binary64.Reading
import CognitiveKernel.Binary64.Rounding
import CognitiveKernel.Binary64.Shortest
import CognitiveKernel.Binary64.Writing
import CognitiveKernel.Blueprint.Basic
import CognitiveKernel.Blueprint.Block
import CognitiveKernel.Blueprint.Invariant
import CognitiveKernel.Blueprint.Rendering
import CognitiveKernel.Blueprint.Trait
import CognitiveKernel.Blueprint.Validation
import CognitiveKernel.Blueprint.Yaml
import CognitiveKernel.Config
import CognitiveKernel.Config.Yaml
import CognitiveKernel.Decimal.Digits
import CognitiveKernel.Decimal.Layout
import CognitiveKernel.Decimal.Numeral
import CognitiveKernel.Document.Fault
import CognitiveKernel.Document.Reading
import CognitiveKernel.Error
import CognitiveKernel.FileTree
import CognitiveKernel.Hexadecimal
import CognitiveKernel.Json.Decoding
import CognitiveKernel.Json.Reading
import CognitiveKernel.Json.Value
import CognitiveKernel.Json.Writing
import CognitiveKernel.Kernel
import CognitiveKernel.Log
import CognitiveKernel.Mode
import CognitiveKernel.NameMap
import CognitiveKernel.Snapshot
import CognitiveKernel.Snapshot.Json
import CognitiveKernel.Snapshot.Yaml
import CognitiveKernel.Template
import CognitiveKernel.Template.Bundled
import CognitiveKernel.Template.Source
import CognitiveKernel.Text.Blank
import CognitiveKernel.Text.Casing
import CognitiveKernel.Text.Quoted
import CognitiveKernel.Text.Substitution
import CognitiveKernel.Text.Visible
import CognitiveKernel.Yaml.Character
import CognitiveKernel.Yaml.Cursor
import CognitiveKernel.Yaml.Decoding
import CognitiveKernel.Yaml.Directive
import CognitiveKernel.Yaml.Document
import CognitiveKernel.Yaml.Node
import CognitiveKernel.Yaml.Node.Assembly
import CognitiveKernel.Yaml.Presentation
import CognitiveKernel.Yaml.Resolution
import CognitiveKernel.Yaml.Scalar.Block
import CognitiveKernel.Yaml.Scalar.Gap
import CognitiveKernel.Yaml.Scalar.Plain
import CognitiveKernel.Yaml.Scalar.Quoted
import CognitiveKernel.Yaml.Tag
import CognitiveKernel.Yaml.Token
import CognitiveKernel.Yaml.Token.Scanner
import CognitiveKernel.Yaml.Token.Stream
import CognitiveKernel.Yaml.Tree
import CognitiveKernel.Yaml.Writing
import CognitiveKernel.Proofs.Kernel.Reachable
import CognitiveKernel.Proofs.Text.SinglePass
import CognitiveKernel.Proofs.Kernel.Filling
import CognitiveKernel.Proofs.Binary64.Nearest
import CognitiveKernel.Proofs.Binary64.Reading
import CognitiveKernel.Proofs.Decimal.Layout
import CognitiveKernel.Proofs.Binary64.Writing
import CognitiveKernel.Proofs.Json.Number
import CognitiveKernel.Proofs.Json.RoundTrip
import CognitiveKernel.Proofs.Snapshot.Json
import CognitiveKernel.Proofs.Yaml.Cursor
import CognitiveKernel.Proofs.Yaml.Scalar.Plain
import CognitiveKernel.Proofs.Yaml.Scalar.Quoted
import CognitiveKernel.Proofs.Yaml.Scalar.Block
import CognitiveKernel.Proofs.Yaml.Presentation
import CognitiveKernel.Proofs.Yaml.Token.Scanner
import CognitiveKernel.Proofs.Yaml.Token.Stream
import CognitiveKernel.Proofs.Yaml.Tree
import CognitiveKernel.Proofs.Yaml.Document
import CognitiveKernel.Proofs.Yaml.Decoding
import CognitiveKernel.Proofs.Config.Yaml
import CognitiveKernel.Proofs.Blueprint.Yaml
import CognitiveKernel.Proofs.Kernel.Restoring
import CognitiveKernel.Proofs.Text.Delimiter
import CognitiveKernel.Proofs.Binary64.Display
import CognitiveKernel.Proofs.Blueprint.Rendering
import CognitiveKernel.Proofs.Blueprint.Compilation
import CognitiveKernel.Proofs.FileTree
import CognitiveKernel.Proofs.Config.Loading
import CognitiveKernel.Proofs.Text.Splitting
import CognitiveKernel.Proofs.Blueprint.Sections
import CognitiveKernel.Proofs.Yaml.Content
import CognitiveKernel.Proofs.Yaml.Transparency
import CognitiveKernel.Proofs.Yaml.Layout
import CognitiveKernel.Proofs.Yaml.Fields
import CognitiveKernel.Proofs.Yaml.Records
import CognitiveKernel.Proofs.Config.Fields
import CognitiveKernel.Proofs.Blueprint.Fields
import CognitiveKernel.Proofs.NameMap
import CognitiveKernel.Proofs.Kernel.Weighting
import CognitiveKernel.Proofs.Config.Agreement
import CognitiveKernel.Proofs.Blueprint.Findings
import CognitiveKernel.Proofs.Binary64.Value
import CognitiveKernel.Proofs.Binary64.Product
import CognitiveKernel.Proofs.Binary64.TwoDecimals
import CognitiveKernel.Proofs.Kernel.WeightText
import CognitiveKernel.Proofs.Blueprint.Safety
import CognitiveKernel.Proofs.Kernel.Rigor
import CognitiveKernel.Proofs.Json.Literal
import CognitiveKernel.Proofs.Snapshot.Tags
