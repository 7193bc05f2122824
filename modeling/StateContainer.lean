import StateContainer.Artifact
import StateContainer.Batch
import StateContainer.Channel
import StateContainer.Channel.Observer
import StateContainer.Channel.Run
import StateContainer.Channel.Script
import StateContainer.Channel.Session
import StateContainer.Class
import StateContainer.Class.Catalogue
import StateContainer.Class.Declare
import StateContainer.Class.Description
import StateContainer.Class.Formal
import StateContainer.Class.Index
import StateContainer.Class.Instance
import StateContainer.Class.Metadata
import StateContainer.Class.Module
import StateContainer.Class.Record
import StateContainer.CommandLine.Command
import StateContainer.CommandLine.Help
import StateContainer.CommandLine.Report
import StateContainer.CommandLine.Settings
import StateContainer.CommandLine.Usage
import StateContainer.Console.Action
import StateContainer.Console.Cell
import StateContainer.Console.CellTable
import StateContainer.Console.Look
import StateContainer.Console.Markup
import StateContainer.Console.PictureTable
import StateContainer.Console.Table
import StateContainer.Container
import StateContainer.Container.Code
import StateContainer.Container.Session
import StateContainer.Descriptor
import StateContainer.Event
import StateContainer.Extraction
import StateContainer.Failure
import StateContainer.Hint
import StateContainer.Hint.Abstract
import StateContainer.Hint.Admission
import StateContainer.Hint.Attribute
import StateContainer.Hint.Binding
import StateContainer.Hint.Call
import StateContainer.Hint.Construct
import StateContainer.Hint.Describe
import StateContainer.Hint.Evaluate
import StateContainer.Hint.Expression
import StateContainer.Hint.Fault
import StateContainer.Hint.Generic
import StateContainer.Hint.Given
import StateContainer.Hint.Identifier
import StateContainer.Hint.Literal
import StateContainer.Hint.MemberTable
import StateContainer.Hint.Memory
import StateContainer.Hint.Method
import StateContainer.Hint.Moment
import StateContainer.Hint.Numeral
import StateContainer.Hint.Operator
import StateContainer.Hint.Problem
import StateContainer.Hint.Reader
import StateContainer.Hint.Resolve
import StateContainer.Hint.Shown
import StateContainer.Hint.Subscript
import StateContainer.Hint.Token
import StateContainer.Hint.Vocabulary
import StateContainer.Hint.Written
import StateContainer.Json
import StateContainer.Json.Access
import StateContainer.Json.Reader
import StateContainer.Json.Writer
import StateContainer.Main
import StateContainer.ModuleText
import StateContainer.Number.Arithmetic
import StateContainer.Number.Binary64
import StateContainer.Number.Decimal
import StateContainer.Number.Notation
import StateContainer.Number.Power
import StateContainer.Number.Reader
import StateContainer.OrderedMap
import StateContainer.Proofs.Channel.Agenda
import StateContainer.Proofs.Channel.Chronicle
import StateContainer.Proofs.Channel.Delivery
import StateContainer.Proofs.Channel.Ending
import StateContainer.Proofs.Channel.Errors
import StateContainer.Proofs.Channel.Holding
import StateContainer.Proofs.Channel.Insertion
import StateContainer.Proofs.Channel.Isolation
import StateContainer.Proofs.Channel.Mirror
import StateContainer.Proofs.Channel.Nesting
import StateContainer.Proofs.Channel.Pacing
import StateContainer.Proofs.Channel.Registering
import StateContainer.Proofs.Channel.Situation
import StateContainer.Proofs.Channel.Sparing
import StateContainer.Proofs.Channel.Stepping
import StateContainer.Proofs.Class.Building
import StateContainer.Proofs.Class.Declaring
import StateContainer.Proofs.Class.Finding
import StateContainer.Proofs.Class.Identity
import StateContainer.Proofs.Class.Making
import StateContainer.Proofs.Class.Naming
import StateContainer.Proofs.Class.Remaking
import StateContainer.Proofs.Container.Build
import StateContainer.Proofs.Container.Conduct
import StateContainer.Proofs.Container.Conformance
import StateContainer.Proofs.Container.Effect
import StateContainer.Proofs.Container.Keeping
import StateContainer.Proofs.Container.Ledger
import StateContainer.Proofs.Container.Loading
import StateContainer.Proofs.Container.Precedence
import StateContainer.Proofs.Container.Refinement
import StateContainer.Proofs.Container.Resuming
import StateContainer.Proofs.Container.Routine
import StateContainer.Proofs.Container.Secrecy
import StateContainer.Proofs.Container.Sharing
import StateContainer.Proofs.Container.ViewModel
import StateContainer.Proofs.Except
import StateContainer.Proofs.Generation.Batch
import StateContainer.Proofs.Generation.Describing
import StateContainer.Proofs.Generation.Extracting
import StateContainer.Proofs.Generation.Importing
import StateContainer.Proofs.Generation.Marking
import StateContainer.Proofs.Generation.Report
import StateContainer.Proofs.Generation.Shaping
import StateContainer.Proofs.Generation.Supplying
import StateContainer.Proofs.Hint.Applying
import StateContainer.Proofs.Hint.Cutting
import StateContainer.Proofs.Hint.Fidelity
import StateContainer.Proofs.Hint.Meaning
import StateContainer.Proofs.Hint.Reading
import StateContainer.Proofs.Json.Text
import StateContainer.Proofs.Json.Tree
import StateContainer.Proofs.OrderedMap
import StateContainer.Proofs.Signature.Completeness
import StateContainer.Proofs.Signature.Depth
import StateContainer.Proofs.Signature.Grammar
import StateContainer.Proofs.Signature.Members
import StateContainer.Proofs.Signature.Refusal
import StateContainer.Proofs.Signature.RoundTrip
import StateContainer.Proofs.Signature.Soundness
import StateContainer.Proofs.Signature.Stack
import StateContainer.Proofs.Snapshot.Check
import StateContainer.Proofs.Snapshot.Convert
import StateContainer.Proofs.Text.Words
import StateContainer.QualifiedName
import StateContainer.Schema
import StateContainer.Schema.Json
import StateContainer.Signature.Parser
import StateContainer.Signature.Printer
import StateContainer.Signature.Token
import StateContainer.Signature.Union
import StateContainer.Sink
import StateContainer.Snapshot.Ancestry
import StateContainer.Snapshot.Check
import StateContainer.Snapshot.Convert
import StateContainer.Snapshot.Decode
import StateContainer.Snapshot.Encode
import StateContainer.Snapshot.Rule
import StateContainer.Snapshot.Store
import StateContainer.Text.Blank
import StateContainer.Text.Case
import StateContainer.Text.CaseTable
import StateContainer.Text.CharacterName
import StateContainer.Text.Digit
import StateContainer.Text.Encoding
import StateContainer.Text.Identifier
import StateContainer.Text.IdentifierTable
import StateContainer.Text.NameTable
import StateContainer.Text.Normal
import StateContainer.Text.NormalTable
import StateContainer.Text.Pieces
import StateContainer.Text.PrintableTable
import StateContainer.Text.Quoted
import StateContainer.Text.Span
import StateContainer.TypeText
import StateContainer.Value
import StateContainer.Value.SetOrder
import StateContainer.Value.Tagged
