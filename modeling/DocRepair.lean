import DocRepair.Batch.FileReport
import DocRepair.Batch.Project
import DocRepair.Cli.Arguments
import DocRepair.Cli.Fix
import DocRepair.Cli.Run
import DocRepair.Cli.Session
import DocRepair.Command.Escapes
import DocRepair.Command.Format
import DocRepair.Command.Process
import DocRepair.Command.Script
import DocRepair.Command.Shell
import DocRepair.Command.Toolbox
import DocRepair.Command.Words
import DocRepair.Datum
import DocRepair.Diff.Matching
import DocRepair.Diff.Script
import DocRepair.Diff.Unified
import DocRepair.Display.Markup
import DocRepair.Display.Shortcode
import DocRepair.Display.ShortcodeTable
import DocRepair.Display.Table
import DocRepair.Display.Terminal
import DocRepair.Docblock.Block
import DocRepair.Docblock.Edit
import DocRepair.Docblock.Entry
import DocRepair.Docblock.Location
import DocRepair.Docblock.TypeSplit
import DocRepair.Files.Discovery
import DocRepair.Files.Disk
import DocRepair.Files.FileTree
import DocRepair.Files.Path
import DocRepair.Fixer.Annotate
import DocRepair.Fixer.Basic
import DocRepair.Fixer.Builtin
import DocRepair.Fixer.ClassTags
import DocRepair.Fixer.InlineVariable
import DocRepair.Fixer.Members
import DocRepair.Fixer.Mixin
import DocRepair.Fixer.Result
import DocRepair.Fixer.Signature
import DocRepair.Fixer.ValueType
import DocRepair.Issue.Basic
import DocRepair.Issue.Message
import DocRepair.Json.Indented
import DocRepair.Json.Reader
import DocRepair.Json.Writer
import DocRepair.Main
import DocRepair.Moment
import DocRepair.Number.Binary64
import DocRepair.Number.Integer
import DocRepair.Number.Total
import DocRepair.OrderedMap
import DocRepair.Pattern.Basic
import DocRepair.Pattern.Matcher
import DocRepair.Pattern.Reader
import DocRepair.Php.Declarations
import DocRepair.Php.Grammar
import DocRepair.Php.KeywordStatements
import DocRepair.Php.Lexer
import DocRepair.Php.Node
import DocRepair.Php.Reading
import DocRepair.Php.Source
import DocRepair.Php.Token
import DocRepair.Plugin.Assembly
import DocRepair.Plugin.Catalogue
import DocRepair.Plugin.Load
import DocRepair.Policy.Configuration
import DocRepair.Policy.ConfigurationFile
import DocRepair.Policy.Delimited
import DocRepair.Policy.Expressions
import DocRepair.Policy.PathFilter
import DocRepair.Policy.Rule
import DocRepair.Policy.Wildcard
import DocRepair.Proofs.Batch.Accounting
import DocRepair.Proofs.Batch.BottomUp
import DocRepair.Proofs.Batch.Changes
import DocRepair.Proofs.Batch.FileGroups
import DocRepair.Proofs.Batch.Interleaving
import DocRepair.Proofs.Batch.PendingLines
import DocRepair.Proofs.Batch.Repetition
import DocRepair.Proofs.Batch.SameLine
import DocRepair.Proofs.Batch.SavedBytes
import DocRepair.Proofs.Batch.Steps
import DocRepair.Proofs.Batch.Unfixed
import DocRepair.Proofs.Docblock.BlockAbove
import DocRepair.Proofs.Docblock.BlockEdit
import DocRepair.Proofs.Docblock.BuiltBlock
import DocRepair.Proofs.Docblock.CanonicalForm
import DocRepair.Proofs.Docblock.EntryValues
import DocRepair.Proofs.Docblock.FoundBlock
import DocRepair.Proofs.Docblock.MethodValues
import DocRepair.Proofs.Docblock.TypeGrammar
import DocRepair.Proofs.Docblock.TypeSplit
import DocRepair.Proofs.Docblock.WholeType
import DocRepair.Proofs.Docblock.WrittenBlock
import DocRepair.Proofs.Fixer.AddedTag
import DocRepair.Proofs.Fixer.AnnotationFrame
import DocRepair.Proofs.Fixer.AppendedTag
import DocRepair.Proofs.Fixer.CarriageReturns
import DocRepair.Proofs.Fixer.CopiedType
import DocRepair.Proofs.Fixer.ExpandedBlock
import DocRepair.Proofs.Fixer.Growth
import DocRepair.Proofs.Fixer.InlineDeclaration
import DocRepair.Proofs.Fixer.LineNumbers
import DocRepair.Proofs.Fixer.ParameterPlace
import DocRepair.Proofs.Fixer.Plan
import DocRepair.Proofs.Fixer.PlannedEdit
import DocRepair.Proofs.Fixer.Recognition
import DocRepair.Proofs.Fixer.TagEdit
import DocRepair.Proofs.Fixer.WrittenBytes
import DocRepair.Proofs.Issue.Claimants
import DocRepair.Proofs.Issue.Dispatch
import DocRepair.Proofs.Issue.MentionedWords
import DocRepair.Proofs.Issue.Names
import DocRepair.Proofs.Issue.Words
import DocRepair.Proofs.Json.DecodedValues
import DocRepair.Proofs.Number.Digits
import DocRepair.Proofs.OrderedMap
import DocRepair.Proofs.Outcome
import DocRepair.Proofs.Pattern.Captures
import DocRepair.Proofs.Pattern.FirstPath
import DocRepair.Proofs.Pattern.Outline
import DocRepair.Proofs.Pattern.SpelledExpression
import DocRepair.Proofs.Php.DeclarationPlaces
import DocRepair.Proofs.Php.Nesting
import DocRepair.Proofs.Php.OrderlyGrammar
import DocRepair.Proofs.Php.OrderlyReading
import DocRepair.Proofs.Php.OrderlyStatements
import DocRepair.Proofs.Php.Ownership
import DocRepair.Proofs.Php.Slices
import DocRepair.Proofs.Policy.Directories
import DocRepair.Proofs.Policy.Precedence
import DocRepair.Proofs.Policy.ValidDocument
import DocRepair.Proofs.Policy.Wildcard
import DocRepair.Proofs.Policy.WildcardExpression
import DocRepair.Proofs.Registry.History
import DocRepair.Proofs.Report.UsableEntries
import DocRepair.Proofs.Report.WrittenIntegers
import DocRepair.Proofs.Sequence
import DocRepair.Proofs.Source.Relabel
import DocRepair.Proofs.Text.Bytes
import DocRepair.Proofs.Text.LineEndings
import DocRepair.Proofs.Text.Pieces
import DocRepair.Proofs.Text.Trimmed
import DocRepair.Registry
import DocRepair.Report.File
import DocRepair.Report.Integer
import DocRepair.Report.Issues
import DocRepair.Source.Locate
import DocRepair.Source.Tree
import DocRepair.Text.Blank
import DocRepair.Text.Cased
import DocRepair.Text.CodePoint
import DocRepair.Text.Columns
import DocRepair.Text.Digit
import DocRepair.Text.Identifier
import DocRepair.Text.LetterCase
import DocRepair.Text.Lines
import DocRepair.Text.Quoted
import DocRepair.Text.Ranges
import DocRepair.Text.Search
import DocRepair.Text.Utf8
import DocRepair.Text.Word
import DocRepair.Thrown
import DocRepair.Toml.Document
import DocRepair.Toml.Value
import DocRepair.Yaml.Cursor
import DocRepair.Yaml.Document
import DocRepair.Yaml.Fault
import DocRepair.Yaml.Lexer
import DocRepair.Yaml.Node
import DocRepair.Yaml.Number
import DocRepair.Yaml.ScalarText
import DocRepair.Yaml.Tag
import DocRepair.Yaml.Token
