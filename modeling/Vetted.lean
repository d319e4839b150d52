import Vetted.Command.Line
import Vetted.Command.Option
import Vetted.Command.Run
import Vetted.Command.Usage
import Vetted.Conversion
import Vetted.Date
import Vetted.Declaration
import Vetted.Domain
import Vetted.Email
import Vetted.Failure
import Vetted.FileFault
import Vetted.FileSystem
import Vetted.FileSystem.ImportName
import Vetted.FileSystem.Text
import Vetted.Generated.Emission
import Vetted.Generated.Formatted
import Vetted.Generated.Installation
import Vetted.Generated.Loading
import Vetted.Generated.Output
import Vetted.Generated.Program
import Vetted.Generated.Rendering
import Vetted.Generated.Template
import Vetted.Generation
import Vetted.Hostname.Allowed
import Vetted.Hostname.Direction
import Vetted.Hostname.Domain
import Vetted.Hostname.Label
import Vetted.Hostname.Mapping
import Vetted.Hostname.Punycode
import Vetted.Hostname.Script
import Vetted.InputClass
import Vetted.Layout.Breaking
import Vetted.Layout.Comment
import Vetted.Layout.Draft
import Vetted.Layout.Format
import Vetted.Layout.Line
import Vetted.Layout.Literal
import Vetted.Layout.Margin
import Vetted.Layout.Nested
import Vetted.Layout.Part
import Vetted.Layout.Position
import Vetted.Layout.Scan
import Vetted.Layout.Spacing
import Vetted.Layout.Untouched
import Vetted.Layout.Version
import Vetted.Log
import Vetted.Logged
import Vetted.Main
import Vetted.Moment
import Vetted.Naming
import Vetted.Number.Binary
import Vetted.Number.Decimal
import Vetted.Number.Floating
import Vetted.Number.Numeral
import Vetted.Password.Base64
import Vetted.Password.Derived
import Vetted.Password.Hash
import Vetted.Password.Sha256
import Vetted.Password.Verification
import Vetted.Path
import Vetted.Proofs.AcceptedSettings
import Vetted.Proofs.ClassBodies
import Vetted.Proofs.CommandExit
import Vetted.Proofs.ComparisonRules
import Vetted.Proofs.ConversionFailure
import Vetted.Proofs.ConversionMeaning
import Vetted.Proofs.ConverterFaults
import Vetted.Proofs.DateOfBirth
import Vetted.Proofs.DatePattern
import Vetted.Proofs.DecimalOrder
import Vetted.Proofs.DecimalText
import Vetted.Proofs.DecodedPieces
import Vetted.Proofs.DefinedNames
import Vetted.Proofs.Discovery
import Vetted.Proofs.EncodedText
import Vetted.Proofs.FailedFields
import Vetted.Proofs.FieldConventions
import Vetted.Proofs.FilePlaces
import Vetted.Proofs.GeneratedNames
import Vetted.Proofs.GeneratedProgram
import Vetted.Proofs.GenerationFailure
import Vetted.Proofs.ImportOrder
import Vetted.Proofs.ImportText
import Vetted.Proofs.InputClasses
import Vetted.Proofs.InputOrder
import Vetted.Proofs.InstalledFile
import Vetted.Proofs.LoneRecord
import Vetted.Proofs.NameTables
import Vetted.Proofs.NeededImports
import Vetted.Proofs.NeededRules
import Vetted.Proofs.OmittedFields
import Vetted.Proofs.OutputNames
import Vetted.Proofs.PackageChain
import Vetted.Proofs.PrintedFunction
import Vetted.Proofs.RegistryOrder
import Vetted.Proofs.RepeatedGeneration
import Vetted.Proofs.ReportedFields
import Vetted.Proofs.Resolution
import Vetted.Proofs.Sequence
import Vetted.Proofs.SettingsReading
import Vetted.Proofs.SnakeCase
import Vetted.Proofs.TableSearch
import Vetted.Proofs.TagComposition
import Vetted.Proofs.TagTokens
import Vetted.Proofs.TextOrder
import Vetted.Proofs.TextPieces
import Vetted.Proofs.UnreportedFailure
import Vetted.Proofs.ValidationOutcome
import Vetted.Proofs.VariantLoading
import Vetted.Proofs.Variants
import Vetted.Proofs.WrapperClash
import Vetted.Proofs.WrapperNames
import Vetted.Proofs.WrapperTypes
import Vetted.Proofs.WrittenExpressions
import Vetted.Registry
import Vetted.Report
import Vetted.Rule
import Vetted.Settings.Basic
import Vetted.Settings.Loading
import Vetted.Settings.Problem
import Vetted.Settings.Raw
import Vetted.Source.Binding
import Vetted.Source.Expr
import Vetted.Source.FaultLine
import Vetted.Source.Formatted
import Vetted.Source.Grammar
import Vetted.Source.Lexer
import Vetted.Source.Literal
import Vetted.Source.Module
import Vetted.Source.Pattern
import Vetted.Source.Printer
import Vetted.Source.Reading
import Vetted.Source.Restriction
import Vetted.Source.Stmt
import Vetted.Source.TextFault
import Vetted.Source.Token
import Vetted.Source.Tree
import Vetted.Text.Alphanumeric
import Vetted.Text.Basic
import Vetted.Text.Case
import Vetted.Text.CharacterName
import Vetted.Text.CharacterName.Alias
import Vetted.Text.CharacterName.Alphabets
import Vetted.Text.CharacterName.Ancient
import Vetted.Text.CharacterName.Listing
import Vetted.Text.CharacterName.Syllables
import Vetted.Text.CharacterName.Symbols
import Vetted.Text.Digit
import Vetted.Text.Half
import Vetted.Text.Identifier
import Vetted.Text.Mapping
import Vetted.Text.Mark
import Vetted.Text.Normal
import Vetted.Text.Pieces
import Vetted.Text.Printable
import Vetted.Text.Quoted
import Vetted.Text.Ranges
import Vetted.Text.Utf8
import Vetted.Text.Width
import Vetted.Validation
import Vetted.Value
import Vetted.Yaml.Cursor
import Vetted.Yaml.Fault
import Vetted.Yaml.Node
import Vetted.Yaml.Scalar
import Vetted.Yaml.Supply
import Vetted.Yaml.Token
import Vetted.Yaml.Token.Property
import Vetted.Yaml.Token.Scalar
import Vetted.Yaml.Token.Scan
import Vetted.Yaml.Value
