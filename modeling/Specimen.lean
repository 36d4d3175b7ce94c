import Specimen.Integer
import Specimen.Dictionary
import Specimen.Text.Blank
import Specimen.Text.Split
import Specimen.Text.CodeSet
import Specimen.Text.Utf8
import Specimen.Text.DecimalDigit
import Specimen.Text.LooseName
import Specimen.Text.Category
import Specimen.Text.Script
import Specimen.Text.CaseTable
import Specimen.Text.Property
import Specimen.Text.Folding
import Specimen.Text.Segmentation
import Specimen.Text.Age
import Specimen.Text.Case
import Specimen.Decimal.Binary64
import Specimen.Decimal.Shortest
import Specimen.Decimal.Places
import Specimen.Decimal.Numeral
import Specimen.Json.Basic
import Specimen.Json.Printer
import Specimen.Json.Reader
import Specimen.Rule.Basic
import Specimen.Rule.Reader
import Specimen.Rule.Key
import Specimen.Random.Source
import Specimen.Random.ChaCha
import Specimen.Random.Uniform
import Specimen.Random.Sample
import Specimen.Random.Pool
import Specimen.Random.Word
import Specimen.Random.Web
import Specimen.Random.Phone
import Specimen.Calendar.Moment
import Specimen.Calendar.Format
import Specimen.Random.Time
import Specimen.Scope.Basic
import Specimen.Scope.Family
import Specimen.Placeholder.Error
import Specimen.Placeholder.Registry
import Specimen.Placeholder.Extension
import Specimen.Placeholder.Argument
import Specimen.Progression
import Specimen.Placeholder.Builtin
import Specimen.Pattern.Form
import Specimen.Pattern.Automaton
import Specimen.Pattern.Tree
import Specimen.Pattern.Reader
import Specimen.Pattern.Query
import Specimen.Pattern.Meaning
import Specimen.Pattern.Synthesis
import Specimen.Pattern.Span
import Specimen.Placeholder.Token
import Specimen.Placeholder.Resolution
import Specimen.Generation.Step
import Specimen.Generation.Execution
import Specimen.Generation.Basic
import Specimen.Toml.Text
import Specimen.Toml.Value
import Specimen.Toml.Document
import Specimen.Options
import Specimen.Text.Quoted
import Specimen.Generation.Description
import Specimen.Generation.Setup
import Specimen.Command.Request
import Specimen.Command.LogFilter
import Specimen.Command.Help
import Specimen.Command.Surroundings
import Specimen.Command.Effect
import Specimen.Command.Run
import Specimen.Command.Folder
import Specimen.Main
import Specimen.Proofs.Sorted
import Specimen.Proofs.Json.Nodes
import Specimen.Proofs.Random.Draws
import Specimen.Proofs.Text.Digits
import Specimen.Proofs.Json.Scalars
import Specimen.Proofs.Rule.Reading
import Specimen.Proofs.Rule.Validation
import Specimen.Proofs.Rule.Grammar
import Specimen.Proofs.Rule.Outcome
import Specimen.Proofs.Rule.Turns
import Specimen.Proofs.Random.Samples
import Specimen.Proofs.Random.Texts
import Specimen.Proofs.Rule.Pieces
import Specimen.Proofs.Scope.Operation
import Specimen.Proofs.Scope.History
import Specimen.Proofs.Scope.Answers
import Specimen.Proofs.Scope.Counts
import Specimen.Proofs.Generation.Run
import Specimen.Proofs.Generation.IdleRules
import Specimen.Proofs.Text.Plain
import Specimen.Proofs.Generation.PlainTemplate
import Specimen.Proofs.Json.RoundTrip
import Specimen.Proofs.Generation.References
import Specimen.Proofs.Generation.SerialNumbers
import Specimen.Proofs.Generation.Composition
import Specimen.Proofs.Text.Tokens
import Specimen.Proofs.Generation.Agreement
import Specimen.Proofs.Generation.LocalReferences
import Specimen.Proofs.Generation.NearestValues
import Specimen.Proofs.Text.TokenGrammar
import Specimen.Proofs.Placeholder.Additions
import Specimen.Proofs.Placeholder.Replacement
import Specimen.Proofs.Placeholder.Dispatch
import Specimen.Proofs.Placeholder.Forms
import Specimen.Proofs.Placeholder.Concatenation
import Specimen.Proofs.Command.Effects
import Specimen.Proofs.Command.Folder
import Specimen.Proofs.Generation.Timeless
import Specimen.Proofs.Text.Cuts
import Specimen.Proofs.Pattern.Spans
import Specimen.Proofs.Pattern.Mail
import Specimen.Proofs.Pattern.Quantifier
import Specimen.Proofs.Pattern.SingleClass
import Specimen.Proofs.Pattern.Parts
import Specimen.Proofs.Generation.FixedPoint
import Specimen.Proofs.Generation.Determinism
import Specimen.Proofs.Command.Output
import Specimen.Proofs.Generation.Shape
import Specimen.Proofs.Calendar.Letters
import Specimen.Proofs.Placeholder.Progressions
import Specimen.Proofs.Placeholder.ArgumentList
import Specimen.Proofs.Generation.IntegerBounds
import Specimen.Proofs.Decimal.Rounding
import Specimen.Proofs.Decimal.Shares
import Specimen.Proofs.Generation.Checked
import Specimen.Proofs.Generation.Safety
