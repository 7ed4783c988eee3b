import ThemeCompiler.Accessibility
import ThemeCompiler.Arena
import ThemeCompiler.Assets
import ThemeCompiler.Command.Arguments
import ThemeCompiler.Command.Run
import ThemeCompiler.Command.Settings
import ThemeCompiler.Compilation
import ThemeCompiler.Config
import ThemeCompiler.Digest.NameId
import ThemeCompiler.Digest.Sha1
import ThemeCompiler.Document.Basic
import ThemeCompiler.Document.Edit
import ThemeCompiler.Document.Printer
import ThemeCompiler.Document.Source
import ThemeCompiler.Document.Sweep
import ThemeCompiler.Failure
import ThemeCompiler.Field
import ThemeCompiler.FieldGroup
import ThemeCompiler.Files.Disk
import ThemeCompiler.Files.Path
import ThemeCompiler.Files.Store
import ThemeCompiler.Html.Builder.Basic
import ThemeCompiler.Html.Builder.Body
import ThemeCompiler.Html.Builder.Foreign
import ThemeCompiler.Html.Builder.Formatting
import ThemeCompiler.Html.Builder.Head
import ThemeCompiler.Html.Builder.Rules
import ThemeCompiler.Html.Builder.Table
import ThemeCompiler.Html.CharRef
import ThemeCompiler.Html.Charset
import ThemeCompiler.Html.Lexer
import ThemeCompiler.Html.Reader
import ThemeCompiler.Html.References
import ThemeCompiler.Html.Token
import ThemeCompiler.Html.Tree
import ThemeCompiler.Json.Basic
import ThemeCompiler.Json.Decoder
import ThemeCompiler.Json.Numeral
import ThemeCompiler.Json.Outline
import ThemeCompiler.Json.Printer
import ThemeCompiler.Landmarks
import ThemeCompiler.Layout
import ThemeCompiler.Main
import ThemeCompiler.Model.Draft
import ThemeCompiler.Model.Extraction
import ThemeCompiler.Model.LeafSlug
import ThemeCompiler.Model.Scan
import ThemeCompiler.Naming
import ThemeCompiler.Number.Double
import ThemeCompiler.Number.Shortest
import ThemeCompiler.Rules
import ThemeCompiler.Schema
import ThemeCompiler.Seo
import ThemeCompiler.Template.Kind
import ThemeCompiler.Template.Markup
import ThemeCompiler.Template.Writer
import ThemeCompiler.Text.Blank
import ThemeCompiler.Text.Case
import ThemeCompiler.Text.CaseTables
import ThemeCompiler.Text.Search
import ThemeCompiler.Theme.Artifacts
import ThemeCompiler.Theme.Enqueue
import ThemeCompiler.Theme.Frame
import ThemeCompiler.Theme.Shell
import ThemeCompiler.Theme.Workspace
import ThemeCompiler.Validation
import ThemeCompiler.Wire.FieldGroup
import ThemeCompiler.Wire.Model
import ThemeCompiler.Wire.Reports
import ThemeCompiler.Wire.Request
import ThemeCompiler.Wire.Result
import ThemeCompiler.Wire.Schema
import ThemeCompiler.Wire.Settings
import ThemeCompiler.Proofs.Arena.Edits
import ThemeCompiler.Proofs.Arena.Contraction
import ThemeCompiler.Proofs.Arena.Placement
import ThemeCompiler.Proofs.Document.Formed
import ThemeCompiler.Proofs.Accessibility
import ThemeCompiler.Proofs.Assets
import ThemeCompiler.Proofs.Compilation.Again
import ThemeCompiler.Proofs.Compilation.Clickables
import ThemeCompiler.Proofs.Compilation.Valid
import ThemeCompiler.Proofs.Template.Bindings
import ThemeCompiler.Proofs.Template.Pieces
import ThemeCompiler.Proofs.Model.Renaming
import ThemeCompiler.Proofs.Template.Emission
import ThemeCompiler.Proofs.Model.Words
import ThemeCompiler.Proofs.Template.Openings
import ThemeCompiler.Proofs.Document.Editing
import ThemeCompiler.Proofs.Schema
import ThemeCompiler.Proofs.Compilation.Printed
import ThemeCompiler.Proofs.Wire.Canonical
import ThemeCompiler.Proofs.Theme.Registry
import ThemeCompiler.Proofs.Files.Parts
import ThemeCompiler.Proofs.Files.Ways
import ThemeCompiler.Proofs.Files.Effects
import ThemeCompiler.Proofs.Theme.Writers
import ThemeCompiler.Proofs.Theme.Customized
import ThemeCompiler.Proofs.Theme.Confinement
import ThemeCompiler.Proofs.Theme.Insertion
import ThemeCompiler.Proofs.Theme.Declarations
import ThemeCompiler.Proofs.Theme.Copies
import ThemeCompiler.Proofs.Document.SameTree
import ThemeCompiler.Proofs.Document.SameTags
import ThemeCompiler.Proofs.Document.Numbering
import ThemeCompiler.Proofs.Reports.Search
import ThemeCompiler.Proofs.Reports.Logs
import ThemeCompiler.Proofs.Model.Survey
import ThemeCompiler.Proofs.Model.Echoes
import ThemeCompiler.Proofs.Model.Instances
import ThemeCompiler.Proofs.Accessibility.Hidden
import ThemeCompiler.Proofs.Accessibility.Scores
import ThemeCompiler.Proofs.Model.Signatures
import ThemeCompiler.Proofs.Model.Rows
import ThemeCompiler.Proofs.Model.Order
import ThemeCompiler.Proofs.Template.Accessors
import ThemeCompiler.Proofs.Template.Header
import ThemeCompiler.Proofs.Template.Rendering
import ThemeCompiler.Proofs.Assets.Stability
import ThemeCompiler.Proofs.Layout
import ThemeCompiler.Proofs.Theme.Snippets
import ThemeCompiler.Proofs.Theme.Repeated
import ThemeCompiler.Proofs.Validation
import ThemeCompiler.Proofs.Model.Uniqueness
import ThemeCompiler.Proofs.Model.Depth
import ThemeCompiler.Proofs.FieldGroup
import ThemeCompiler.Proofs.Naming.NormalForms
