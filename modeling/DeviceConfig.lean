import DeviceConfig.Automation.Action
import DeviceConfig.Automation.Basic
import DeviceConfig.Automation.Kind
import DeviceConfig.Automation.Object
import DeviceConfig.Build.FilePath
import DeviceConfig.Build.FileTree
import DeviceConfig.Build.Metadata
import DeviceConfig.Catalog
import DeviceConfig.CommandLine.Arguments
import DeviceConfig.CommandLine.Command
import DeviceConfig.CommandLine.Help
import DeviceConfig.Compile
import DeviceConfig.CompileError
import DeviceConfig.Core.Build
import DeviceConfig.Core.Schema
import DeviceConfig.Cpp.Expr
import DeviceConfig.Cpp.Literal
import DeviceConfig.Cpp.Name
import DeviceConfig.CppType.Basic
import DeviceConfig.CppType.Reader
import DeviceConfig.Decimal.Notation
import DeviceConfig.Decimal.Reader
import DeviceConfig.Decimal.Shortest
import DeviceConfig.Entries
import DeviceConfig.Json.Basic
import DeviceConfig.Json.Encode
import DeviceConfig.Lambda.Calls
import DeviceConfig.Lambda.Code
import DeviceConfig.Lambda.Compile
import DeviceConfig.Lambda.Fault
import DeviceConfig.Lambda.Header
import DeviceConfig.Main
import DeviceConfig.Node
import DeviceConfig.Path
import DeviceConfig.Problem
import DeviceConfig.Program.Basic
import DeviceConfig.Program.Draft
import DeviceConfig.Program.Order
import DeviceConfig.Program.OutputForm
import DeviceConfig.Program.Symbols
import DeviceConfig.Program.Text
import DeviceConfig.Proofs.Check.Accepted
import DeviceConfig.Proofs.Check.Idempotence
import DeviceConfig.Proofs.Check.Sections
import DeviceConfig.Proofs.Except
import DeviceConfig.Proofs.Generation.Actions
import DeviceConfig.Proofs.Generation.Automations
import DeviceConfig.Proofs.Generation.Changes
import DeviceConfig.Proofs.Generation.Closed
import DeviceConfig.Proofs.Generation.Core
import DeviceConfig.Proofs.Generation.Invariant
import DeviceConfig.Proofs.Generation.Lambdas
import DeviceConfig.Proofs.Generation.Objects
import DeviceConfig.Proofs.Generation.Programs
import DeviceConfig.Proofs.Generation.Sections
import DeviceConfig.Proofs.Generation.Steps
import DeviceConfig.Proofs.Generation.Switches
import DeviceConfig.Proofs.Identifiers.Naming
import DeviceConfig.Proofs.Identifiers.Resolved
import DeviceConfig.Proofs.Program.Names
import DeviceConfig.Proofs.Program.Rendering
import DeviceConfig.Proofs.Program.Symbols
import DeviceConfig.Proofs.Schema.Combinators
import DeviceConfig.Proofs.Schema.Declarations
import DeviceConfig.Proofs.Schema.FieldSet
import DeviceConfig.Proofs.Schema.Keys
import DeviceConfig.Proofs.Schema.Naming
import DeviceConfig.Proofs.Schema.NormalForm
import DeviceConfig.Proofs.Schema.Normalization
import DeviceConfig.Proofs.Schema.Parts
import DeviceConfig.Proofs.Schema.Recursion
import DeviceConfig.Proofs.Schema.Scalars
import DeviceConfig.Proofs.Schema.Shapes
import DeviceConfig.Proofs.Text.Blank
import DeviceConfig.Proofs.Value.Entries
import DeviceConfig.Proofs.Value.Parts
import DeviceConfig.Proofs.Value.Reading
import DeviceConfig.Schema.Basic
import DeviceConfig.Schema.Check
import DeviceConfig.Schema.Describe
import DeviceConfig.Schema.FieldSet
import DeviceConfig.Schema.Identifiers
import DeviceConfig.Schema.Rule
import DeviceConfig.Schema.Scalar
import DeviceConfig.Suggestion
import DeviceConfig.Switch.Action
import DeviceConfig.Switch.Build
import DeviceConfig.Switch.Reference
import DeviceConfig.Switch.Schema
import DeviceConfig.Text.Blank
import DeviceConfig.Text.Case
import DeviceConfig.Text.CaseTable
import DeviceConfig.Text.EditDistance
import DeviceConfig.Text.Indent
import DeviceConfig.Text.PrintableTable
import DeviceConfig.Text.Quoted
import DeviceConfig.Text.Search
import DeviceConfig.Value.Basic
import DeviceConfig.Value.Display
import DeviceConfig.Value.Duration
import DeviceConfig.Yaml.Basic
import DeviceConfig.Yaml.Decode
import DeviceConfig.Yaml.Document
import DeviceConfig.Yaml.Fault
import DeviceConfig.Yaml.Printer
import DeviceConfig.Yaml.Resolve
import DeviceConfig.Yaml.Token
import DeviceConfig.Yaml.Token.Property
import DeviceConfig.Yaml.Token.Scalar
import DeviceConfig.Yaml.Token.Stream
import DeviceConfig.Yaml.Tree
import DeviceConfig.Proofs.Program.Unfolding
import DeviceConfig.Proofs.Program.History
import DeviceConfig.Proofs.Program.Drafts
import DeviceConfig.Proofs.Lambda.Scanning
import DeviceConfig.Proofs.Text.Lines
import DeviceConfig.Proofs.Lambda.Indentation
import DeviceConfig.Proofs.Lambda.Blocks
import DeviceConfig.Proofs.Lambda.Layout
import DeviceConfig.Proofs.CppType.Reading
import DeviceConfig.Proofs.CppType.Printing
import DeviceConfig.Proofs.Lambda.Printing
import DeviceConfig.Proofs.Lambda.Capture
import DeviceConfig.Proofs.Lambda.Calls
import DeviceConfig.Proofs.Lambda.Rewriting
import DeviceConfig.Proofs.Text.Search
import DeviceConfig.Proofs.Lambda.Reading
import DeviceConfig.Proofs.Build.FilePath
import DeviceConfig.Proofs.Build.Includes
import DeviceConfig.Proofs.Assembly.Uniform
import DeviceConfig.Proofs.Identifiers.Fresh
import DeviceConfig.Proofs.Lists
import DeviceConfig.Proofs.Program.Order
import DeviceConfig.Proofs.Schema.Code
import DeviceConfig.Proofs.Program.Contents
import DeviceConfig.Proofs.Program.Expansion
import DeviceConfig.Proofs.CppType.Words
import DeviceConfig.Proofs.Assembly.Additions
import DeviceConfig.Proofs.Assembly.Parts
import DeviceConfig.Proofs.Assembly.Lambdas
import DeviceConfig.Proofs.Assembly.Expressions
import DeviceConfig.Proofs.Assembly.Actions
import DeviceConfig.Proofs.Assembly.Drafts
import DeviceConfig.Proofs.Assembly.Steps
import DeviceConfig.Proofs.Assembly.Automations
import DeviceConfig.Proofs.Assembly.Core
import DeviceConfig.Proofs.Assembly.Switches
import DeviceConfig.Proofs.Assembly.Sections
import DeviceConfig.Proofs.Assembly.Programs
import DeviceConfig.Proofs.Assembly.Clashes
import DeviceConfig.Proofs.Schema.Problems
import DeviceConfig.Proofs.Schema.Built
import DeviceConfig.Proofs.Schema.Regular
import DeviceConfig.Proofs.CommandLine.Portable
import DeviceConfig.Proofs.CommandLine.Agreement
import DeviceConfig.Proofs.Objects.Names
import DeviceConfig.Proofs.Objects.Allotment
import DeviceConfig.Proofs.Objects.Kept
import DeviceConfig.Proofs.Objects.Steps
import DeviceConfig.Proofs.Objects.Sections
import DeviceConfig.Proofs.Objects.Identifiers
import DeviceConfig.Proofs.Objects.Programs
import DeviceConfig.Proofs.Schema.Faults
import DeviceConfig.Proofs.Schema.Exclusive
import DeviceConfig.Proofs.Schema.Anywhere
import DeviceConfig.Proofs.Schema.Spellings
import DeviceConfig.Proofs.Assembly.Growth
import DeviceConfig.Proofs.Assembly.Vocabulary
import DeviceConfig.Proofs.Assembly.Retrieval
import DeviceConfig.Proofs.Assembly.Atomicity
import DeviceConfig.Proofs.Program.Handles
import DeviceConfig.Proofs.Text.Words
import DeviceConfig.Proofs.CppType.Spelling
import DeviceConfig.Proofs.Text.Slices
import DeviceConfig.Proofs.CppType.Offsets
import DeviceConfig.Proofs.Lambda.Spans
import DeviceConfig.Proofs.Lambda.Offsets
import DeviceConfig.Proofs.Lambda.Faults
import DeviceConfig.Proofs.Cpp.Literal
import DeviceConfig.Proofs.Text.EditDistance
import DeviceConfig.Proofs.Suggestion
import DeviceConfig.Proofs.Value.Loading
import DeviceConfig.Proofs.Schema.Overriding
import DeviceConfig.Proofs.CppType.Ancestry
import DeviceConfig.Proofs.Yaml.Plain
import DeviceConfig.Proofs.Value.Periods
import DeviceConfig.Proofs.Automation.Delays
import DeviceConfig.Proofs.Lambda.Layout
