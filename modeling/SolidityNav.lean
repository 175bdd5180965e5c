import SolidityNav.Ast.Node
import SolidityNav.Ast.NodeType
import SolidityNav.Ast.RawNode
import SolidityNav.Ast.Tree
import SolidityNav.Ast.Walk
import SolidityNav.Compiler.Imports
import SolidityNav.Compiler.Output
import SolidityNav.Compiler.StandardInput
import SolidityNav.Compiler.Version
import SolidityNav.Decimal.Shortest
import SolidityNav.Error
import SolidityNav.FileUri
import SolidityNav.Fingerprint
import SolidityNav.Index
import SolidityNav.Index.OffsetIndex
import SolidityNav.Index.Scope
import SolidityNav.Index.Symbols
import SolidityNav.Json.Basic
import SolidityNav.Json.Decode
import SolidityNav.Json.Document
import SolidityNav.Json.Printer
import SolidityNav.Json.Token
import SolidityNav.LineTable
import SolidityNav.Location
import SolidityNav.Log
import SolidityNav.LogSettings
import SolidityNav.LowerBound
import SolidityNav.Navigation
import SolidityNav.Path
import SolidityNav.Position
import SolidityNav.SourceFile
import SolidityNav.Span
import SolidityNav.Table
import SolidityNav.Text.Blank
import SolidityNav.Text.Bytes
import SolidityNav.Text.Combining
import SolidityNav.Text.Numeral
import SolidityNav.Text.Quoted
import SolidityNav.Text.Split
import SolidityNav.Text.Unprintable
import SolidityNav.Text.Utf8
import SolidityNav.Word
import SolidityNav.Workspace
import SolidityNav.Workspace.Config
import SolidityNav.Proofs.Ast.Recording
import SolidityNav.Proofs.Ast.Structure
import SolidityNav.Proofs.Ast.Walk
import SolidityNav.Proofs.Compiler.Sources
import SolidityNav.Proofs.Compiler.StandardInput
import SolidityNav.Proofs.Compiler.Version
import SolidityNav.Proofs.Coordinates
import SolidityNav.Proofs.Gap
import SolidityNav.Proofs.Index.Arena
import SolidityNav.Proofs.Index.Attributes
import SolidityNav.Proofs.Index.Below
import SolidityNav.Proofs.Index.Building
import SolidityNav.Proofs.Index.Closure
import SolidityNav.Proofs.Index.Coverage
import SolidityNav.Proofs.Index.Extents
import SolidityNav.Proofs.Index.FieldOrder
import SolidityNav.Proofs.Index.Fields
import SolidityNav.Proofs.Index.Lookup
import SolidityNav.Proofs.Index.Members
import SolidityNav.Proofs.Index.MergeOrder
import SolidityNav.Proofs.Index.Merging
import SolidityNav.Proofs.Index.Offsets
import SolidityNav.Proofs.Index.Scan
import SolidityNav.Proofs.Index.Scope
import SolidityNav.Proofs.Index.Scoping
import SolidityNav.Proofs.Index.Signatures
import SolidityNav.Proofs.Index.StateVariables
import SolidityNav.Proofs.Index.Survey
import SolidityNav.Proofs.Index.Symbols
import SolidityNav.Proofs.Index.Tightest
import SolidityNav.Proofs.Index.TypeDefinition
import SolidityNav.Proofs.Index.Uses
import SolidityNav.Proofs.Json.Decode
import SolidityNav.Proofs.Json.Records
import SolidityNav.Proofs.Json.Reordering
import SolidityNav.Proofs.Json.Variation
import SolidityNav.Proofs.LineTable
import SolidityNav.Proofs.LineTable.Scanning
import SolidityNav.Proofs.Location
import SolidityNav.Proofs.LowerBound
import SolidityNav.Proofs.Path
import SolidityNav.Proofs.Selection
import SolidityNav.Proofs.Span
import SolidityNav.Proofs.Span.Reading
import SolidityNav.Proofs.Table
import SolidityNav.Proofs.Text
import SolidityNav.Proofs.Text.Numeral
import SolidityNav.Proofs.Text.Utf8
import SolidityNav.Proofs.Workspace.Caching
import SolidityNav.Proofs.Workspace.Excerpts
import SolidityNav.Proofs.Workspace.History
import SolidityNav.Proofs.Workspace.Ingestion
import SolidityNav.Proofs.Workspace.Locations
import SolidityNav.Proofs.Workspace.Numbering
import SolidityNav.Proofs.Workspace.Outcome
import SolidityNav.Proofs.Workspace.Resolution
