/-
Packed status frames: reading protocol documents, laying their frames out, and writing the C headers.
-/
import StatusFrames.Artifacts
import StatusFrames.Command
import StatusFrames.Command.Analysis
import StatusFrames.Command.Arguments
import StatusFrames.Command.Generation
import StatusFrames.Command.Help
import StatusFrames.Command.Running
import StatusFrames.Compiler
import StatusFrames.Data
import StatusFrames.Data.Printing
import StatusFrames.Decimal.Reading
import StatusFrames.Decimal.Shortest
import StatusFrames.Decimal.Style
import StatusFrames.Declaration
import StatusFrames.Document
import StatusFrames.Document.Folder
import StatusFrames.Document.Literal
import StatusFrames.Document.Loading
import StatusFrames.Document.Reading
import StatusFrames.Document.Validity
import StatusFrames.Emission.Templates
import StatusFrames.Emission.Tree
import StatusFrames.Error
import StatusFrames.Files.Disk
import StatusFrames.Files.Failure
import StatusFrames.Files.Path
import StatusFrames.Layout
import StatusFrames.Layout.Admission
import StatusFrames.Layout.Data
import StatusFrames.Layout.EnumNumbering
import StatusFrames.Layout.Placement
import StatusFrames.Location
import StatusFrames.Main
import StatusFrames.Naming
import StatusFrames.Naming.Case
import StatusFrames.Naming.Owner
import StatusFrames.Naming.SymbolTable
import StatusFrames.Outline
import StatusFrames.Outline.Data
import StatusFrames.Outline.Drafting
import StatusFrames.Outline.Symbols
import StatusFrames.Output
import StatusFrames.Registry
import StatusFrames.Settings
import StatusFrames.Template.BuiltIn
import StatusFrames.Template.Constant
import StatusFrames.Template.Filter
import StatusFrames.Template.FreeNames
import StatusFrames.Template.Machine
import StatusFrames.Template.Parsing
import StatusFrames.Template.Piece
import StatusFrames.Template.Program
import StatusFrames.Template.Rendering
import StatusFrames.Template.Value
import StatusFrames.Text.Blank
import StatusFrames.Text.Casing
import StatusFrames.Text.Casing.Context
import StatusFrames.Text.Casing.Table
import StatusFrames.Text.Cluster
import StatusFrames.Text.CombiningClass
import StatusFrames.Text.Decomposition
import StatusFrames.Text.Decomposition.Table
import StatusFrames.Text.Escaped
import StatusFrames.Text.Identifier
import StatusFrames.Text.Mark
import StatusFrames.Text.Normal
import StatusFrames.Text.Quoted
import StatusFrames.Text.Ranges
import StatusFrames.Text.Unprintable
import StatusFrames.Yaml.Binding
import StatusFrames.Yaml.Character
import StatusFrames.Yaml.Cursor
import StatusFrames.Yaml.Error
import StatusFrames.Yaml.Node
import StatusFrames.Yaml.Node.Grammar
import StatusFrames.Yaml.Tag
import StatusFrames.Yaml.Token
import StatusFrames.Yaml.Token.Lexer
import StatusFrames.Yaml.Token.Property
import StatusFrames.Yaml.Token.Scalar
import StatusFrames.Yaml.Value
import StatusFrames.Proofs.Document.WellFormed
import StatusFrames.Proofs.Naming.Letters
import StatusFrames.Proofs.Emission.Macros
import StatusFrames.Proofs.Emission.FrameTexts
import StatusFrames.Proofs.Emission.HeaderTexts
import StatusFrames.Proofs.Emission.Rendering
import StatusFrames.Proofs.Compiler.Built
import StatusFrames.Proofs.Layout.Numbering
import StatusFrames.Proofs.Outline.Regular
import StatusFrames.Proofs.Artifacts.Insertion
import StatusFrames.Proofs.Files.Components
import StatusFrames.Proofs.Outline.Paths
import StatusFrames.Proofs.Document.Literals
import StatusFrames.Proofs.Emission.Agreement
import StatusFrames.Proofs.C.Constant
import StatusFrames.Proofs.Declaration.Parts
import StatusFrames.Proofs.C.Packed
import StatusFrames.Proofs.Layout.Dense
import StatusFrames.Proofs.Emission.Contents
import StatusFrames.Proofs.Emission.Structs
import StatusFrames.Proofs.Emission.Names
import StatusFrames.Proofs.C.Program
import StatusFrames.Proofs.Outline.Constants
import StatusFrames.Proofs.Outline.Meaning
import StatusFrames.Proofs.Emission.Constants
import StatusFrames.Proofs.Document.Validity
import StatusFrames.Proofs.Compiler.Modular
import StatusFrames.Proofs.Compiler.Order
import StatusFrames.Proofs.Emission.Enumerators
import StatusFrames.Proofs.Naming.Case
import StatusFrames.Proofs.Compiler.Totality
import StatusFrames.Proofs.C.Pieces
import StatusFrames.Proofs.C.Expression
import StatusFrames.Proofs.Naming.Symbols
import StatusFrames.Proofs.Emission.TypeIds
import StatusFrames.Proofs.Naming.Renaming
import StatusFrames.Proofs.Layout.Renaming
import StatusFrames.Proofs.Outline.Renaming
import StatusFrames.Proofs.Compiler.Renaming
import StatusFrames.Proofs.C.Numerals
import StatusFrames.Proofs.C.Scope
import StatusFrames.Proofs.Outline.Uses
import StatusFrames.Proofs.Emission.Scope
import StatusFrames.Proofs.Layout.Faults
import StatusFrames.Proofs.Compiler.Errors
import StatusFrames.Proofs.Output.Failures
import StatusFrames.Proofs.Command.Untouched
import StatusFrames.Proofs.Emission.Blocks
import StatusFrames.Proofs.Output.Written
import StatusFrames.Proofs.Layout.Labels
import StatusFrames.Proofs.Naming.Collisions
import StatusFrames.Proofs.Layout.DeviceId
import StatusFrames.Proofs.Decimal.Whole
import StatusFrames.Proofs.Layout.Admission
import StatusFrames.Proofs.Layout.HealthChecks
import StatusFrames.Proofs.Text.Decomposition
import StatusFrames.Proofs.Text.Normal
import StatusFrames.Proofs.Yaml.Word
import StatusFrames.Proofs.Document.Integers
import StatusFrames.Proofs.Outline.Identifiers
import StatusFrames.Proofs.Emission.Members
import StatusFrames.Proofs.C.Strings
import StatusFrames.Proofs.Outline.Owners
import StatusFrames.Proofs.Emission.CheckTexts
import StatusFrames.Proofs.Document.Single
import StatusFrames.Proofs.C.Support
import StatusFrames.Proofs.Emission.IllegalIds
import StatusFrames.Proofs.Emission.ReservedWords
import StatusFrames.Proofs.Naming.SupportNames
import StatusFrames.Proofs.Outline.Clashes
import StatusFrames.Proofs.C.Includes
import StatusFrames.Proofs.Emission.Includes
import StatusFrames.Proofs.Declaration.NormalForm
import StatusFrames.Proofs.Naming.Camel
import StatusFrames.Proofs.Compiler.CamelNames
