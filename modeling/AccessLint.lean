import AccessLint.Catalogue
import AccessLint.Color.Named
import AccessLint.Color.Parse
import AccessLint.Color.Rgb
import AccessLint.Command.Log
import AccessLint.Command.LogFilter
import AccessLint.Command.Options
import AccessLint.Command.Run
import AccessLint.Config
import AccessLint.Decimal.Binary
import AccessLint.Decimal.Read
import AccessLint.Decimal.Write
import AccessLint.Document
import AccessLint.Files.Path
import AccessLint.Files.Selection
import AccessLint.Files.Tree
import AccessLint.Finding
import AccessLint.Finding.Json
import AccessLint.Html.Builder.Basic
import AccessLint.Html.Builder.Body
import AccessLint.Html.Builder.Foreign
import AccessLint.Html.Builder.Formatting
import AccessLint.Html.Builder.Head
import AccessLint.Html.Builder.Table
import AccessLint.Html.Doctype
import AccessLint.Html.Element
import AccessLint.Html.Markup
import AccessLint.Html.Parse
import AccessLint.Html.Reference
import AccessLint.Html.ReferenceTable
import AccessLint.Html.TagReader
import AccessLint.Html.Token
import AccessLint.Html.TokenReader
import AccessLint.Html.Tree
import AccessLint.Input
import AccessLint.Json.Basic
import AccessLint.Json.Read
import AccessLint.Json.Relaxed
import AccessLint.Json.Write
import AccessLint.Main
import AccessLint.Proofs.Color.Functional
import AccessLint.Proofs.Color.Named
import AccessLint.Proofs.Color.Plain
import AccessLint.Proofs.Color.Spelling
import AccessLint.Proofs.Command.Completed
import AccessLint.Proofs.Command.Failure
import AccessLint.Proofs.Config.Accept
import AccessLint.Proofs.Config.RoundTrip
import AccessLint.Proofs.Config.Session
import AccessLint.Proofs.Document.Blank
import AccessLint.Proofs.Document.Leftmost
import AccessLint.Proofs.Document.Locate
import AccessLint.Proofs.Document.Offsets
import AccessLint.Proofs.Document.Order
import AccessLint.Proofs.Document.Prefix
import AccessLint.Proofs.Document.Select
import AccessLint.Proofs.Document.Slices
import AccessLint.Proofs.Files.Below
import AccessLint.Proofs.Files.Discover
import AccessLint.Proofs.Files.Path
import AccessLint.Proofs.Files.Resolve
import AccessLint.Proofs.Files.Write
import AccessLint.Proofs.Html.Builder.Answer
import AccessLint.Proofs.Html.Builder.Basic
import AccessLint.Proofs.Html.Builder.Body
import AccessLint.Proofs.Html.Builder.Formatting
import AccessLint.Proofs.Html.Builder.Head
import AccessLint.Proofs.Html.Builder.Sound
import AccessLint.Proofs.Html.Builder.Table
import AccessLint.Proofs.Html.Carried
import AccessLint.Proofs.Html.Identifier
import AccessLint.Proofs.Html.Lines
import AccessLint.Proofs.Html.Linked
import AccessLint.Proofs.Html.Markup
import AccessLint.Proofs.Html.Origin
import AccessLint.Proofs.Html.Parse
import AccessLint.Proofs.Html.Reference
import AccessLint.Proofs.Html.TagReader
import AccessLint.Proofs.Html.TokenReader
import AccessLint.Proofs.Html.Walk
import AccessLint.Proofs.Input.Lines
import AccessLint.Proofs.Json.Layout
import AccessLint.Proofs.Json.Lexeme
import AccessLint.Proofs.Json.Object
import AccessLint.Proofs.Json.Pretty
import AccessLint.Proofs.Json.Relaxed
import AccessLint.Proofs.Json.Scalar
import AccessLint.Proofs.Lint.Alike
import AccessLint.Proofs.Lint.Filter
import AccessLint.Proofs.Lint.Order
import AccessLint.Proofs.Report.Colours
import AccessLint.Proofs.Report.Export
import AccessLint.Proofs.Report.Group
import AccessLint.Proofs.Report.LineFeeds
import AccessLint.Proofs.Rule.AltText
import AccessLint.Proofs.Rule.Contrast
import AccessLint.Proofs.Rule.HeadingOrder
import AccessLint.Proofs.Rule.Kinds
import AccessLint.Proofs.Rule.Labels
import AccessLint.Proofs.Rule.Links
import AccessLint.Proofs.Rule.Names
import AccessLint.Proofs.Rule.NewTab
import AccessLint.Proofs.Rule.Quotes
import AccessLint.Proofs.Rule.Reports
import AccessLint.Proofs.Source.Compose
import AccessLint.Proofs.Source.Line
import AccessLint.Proofs.Source.Locate
import AccessLint.Proofs.Source.Position
import AccessLint.Proofs.Source.RawText
import AccessLint.Proofs.Source.Region
import AccessLint.Proofs.Source.Slices
import AccessLint.Proofs.Source.Visit
import AccessLint.Proofs.Text.Boundary
import AccessLint.Proofs.Text.Lower
import AccessLint.Proofs.Text.Pattern
import AccessLint.Proofs.Text.Utf8
import AccessLint.Report.Basic
import AccessLint.Report.Style
import AccessLint.Rule.AltText
import AccessLint.Rule.Aria
import AccessLint.Rule.Basic
import AccessLint.Rule.Contrast
import AccessLint.Rule.Heading
import AccessLint.Rule.Label
import AccessLint.Rule.Link
import AccessLint.Source.Locate
import AccessLint.Source.TagIndex
import AccessLint.Text.Alphanumeric
import AccessLint.Text.Basic
import AccessLint.Text.Blank
import AccessLint.Text.CaseContext
import AccessLint.Text.Composition
import AccessLint.Text.CompositionTable
import AccessLint.Text.Direction
import AccessLint.Text.DirectionTable
import AccessLint.Text.Encoding
import AccessLint.Text.Keyed
import AccessLint.Text.Lowercase
import AccessLint.Text.LowercaseTable
import AccessLint.Text.MarkTable
import AccessLint.Text.Pattern
import AccessLint.Text.Punycode
import AccessLint.Text.Quoted
import AccessLint.Web.Address
import AccessLint.Web.Domain
import AccessLint.Web.DomainTable
import AccessLint.Web.Fetch
import AccessLint.Web.Host
import AccessLint.Web.Percent
import AccessLint.Web.Reference
import AccessLint.Web.Status
