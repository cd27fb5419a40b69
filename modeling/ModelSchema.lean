import ModelSchema.Analysis
import ModelSchema.Classifier
import ModelSchema.CommandLine.Arguments
import ModelSchema.CommandLine.Execution
import ModelSchema.Extraction
import ModelSchema.Failure
import ModelSchema.FileTree
import ModelSchema.Glob
import ModelSchema.Grammar.Declarations
import ModelSchema.Grammar.Elements
import ModelSchema.Grammar.Expressions
import ModelSchema.Grammar.Members
import ModelSchema.Grammar.Modules
import ModelSchema.Grammar.Names
import ModelSchema.Grammar.Notion
import ModelSchema.Grammar.Pattern
import ModelSchema.Grammar.Production
import ModelSchema.Grammar.Rule
import ModelSchema.Grammar.Rules
import ModelSchema.Grammar.Statements
import ModelSchema.Grammar.Token
import ModelSchema.Grammar.Types
import ModelSchema.Inspection
import ModelSchema.Main
import ModelSchema.Model
import ModelSchema.Parsing.Advance
import ModelSchema.Parsing.Automaton
import ModelSchema.Parsing.Branch
import ModelSchema.Parsing.Context
import ModelSchema.Parsing.Lexer
import ModelSchema.Parsing.Parser
import ModelSchema.Parsing.Part
import ModelSchema.Parsing.Repair
import ModelSchema.Parsing.Source
import ModelSchema.Parsing.Stack
import ModelSchema.Parsing.Table
import ModelSchema.Parsing.TokenSet
import ModelSchema.Pass
import ModelSchema.Path
import ModelSchema.Proofs.Analysis
import ModelSchema.Proofs.DocComment
import ModelSchema.Proofs.Extraction
import ModelSchema.Proofs.FileTree.Frame
import ModelSchema.Proofs.FileTree.LastName
import ModelSchema.Proofs.FileTree.Operations
import ModelSchema.Proofs.FileTree.Walk
import ModelSchema.Proofs.Path
import ModelSchema.Proofs.Path.Join
import ModelSchema.Proofs.Regeneration
import ModelSchema.Proofs.Registry.Counts
import ModelSchema.Proofs.Registry.Declarations
import ModelSchema.Proofs.Registry.FirstFit
import ModelSchema.Proofs.Registry.Insertion
import ModelSchema.Proofs.Registry.Order
import ModelSchema.Proofs.Registry.Origin
import ModelSchema.Proofs.Registry.Pairing
import ModelSchema.Proofs.Registry.Place
import ModelSchema.Proofs.Registry.Redirection
import ModelSchema.Proofs.Registry.References
import ModelSchema.Proofs.Schema.Atomicity
import ModelSchema.Proofs.Schema.BlockLines
import ModelSchema.Proofs.Schema.CarriedOver
import ModelSchema.Proofs.Schema.ConfigurationBlock
import ModelSchema.Proofs.Schema.DocLines
import ModelSchema.Proofs.Schema.Document
import ModelSchema.Proofs.Schema.Fields
import ModelSchema.Proofs.Schema.Fingerprint
import ModelSchema.Proofs.Schema.Finish
import ModelSchema.Proofs.Schema.ForeignKey
import ModelSchema.Proofs.Schema.Key
import ModelSchema.Proofs.Schema.KeyNames
import ModelSchema.Proofs.Schema.Members
import ModelSchema.Proofs.Schema.Recovery
import ModelSchema.Proofs.Schema.Store
import ModelSchema.Proofs.Source
import ModelSchema.Proofs.Spelling.Layout
import ModelSchema.Proofs.Spelling.Literal
import ModelSchema.Proofs.Spelling.Members
import ModelSchema.Proofs.Spelling.Union
import ModelSchema.Proofs.Spelling.Unwrapping
import ModelSchema.Proofs.Text.Blank
import ModelSchema.Proofs.Text.Lines
import ModelSchema.Proofs.Text.LowerCase
import ModelSchema.Proofs.Watch.ClosedSlot
import ModelSchema.Proofs.Watch.Delivery
import ModelSchema.Proofs.Watch.Directories
import ModelSchema.Proofs.Watch.OwnWrites
import ModelSchema.Proofs.Watch.Slot
import ModelSchema.Registry
import ModelSchema.Registry.Resolve
import ModelSchema.Schema.Block
import ModelSchema.Schema.Document
import ModelSchema.Schema.Preamble
import ModelSchema.Schema.Store
import ModelSchema.Settings
import ModelSchema.Settings.Reader
import ModelSchema.Source
import ModelSchema.Spelling
import ModelSchema.Syntax.Dialect
import ModelSchema.Syntax.Doc
import ModelSchema.Syntax.Parse
import ModelSchema.Syntax.Tree
import ModelSchema.Text.Blank
import ModelSchema.Text.CaseTable
import ModelSchema.Text.Cut
import ModelSchema.Text.Decimal
import ModelSchema.Text.Digest
import ModelSchema.Text.HiddenTable
import ModelSchema.Text.Lines
import ModelSchema.Text.LowerCase
import ModelSchema.Text.Quoted
import ModelSchema.Text.Timestamp
import ModelSchema.Text.Utf8
import ModelSchema.Text.Word
import ModelSchema.Text.WordTable
import ModelSchema.Toml
import ModelSchema.Toml.Reader
import ModelSchema.Watch.Changes
import ModelSchema.Watch.Debouncer
import ModelSchema.Watch.EventFilter
import ModelSchema.Watch.Session
import ModelSchema.Watch.Slot
import ModelSchema.Watch.System
