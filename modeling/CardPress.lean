import CardPress.Card.Element
import CardPress.Card.Json
import CardPress.Command.Arguments
import CardPress.Command.Endpoint
import CardPress.Command.Fault
import CardPress.Command.FileTree
import CardPress.Command.Log
import CardPress.Command.Outcome
import CardPress.Command.Path
import CardPress.Command.Plan
import CardPress.Convert
import CardPress.Decimal.Binary64
import CardPress.Decimal.Reader
import CardPress.Decimal.Shortest
import CardPress.Document.Blocks
import CardPress.Document.Inlines
import CardPress.Document.Node
import CardPress.Document.Page
import CardPress.Document.Source
import CardPress.Document.Tables
import CardPress.Host
import CardPress.Json.Basic
import CardPress.Json.Printer
import CardPress.Json.Reader
import CardPress.Main
import CardPress.Markdown.Blocks
import CardPress.Markdown.Definition
import CardPress.Markdown.Delimiter
import CardPress.Markdown.Grid
import CardPress.Markdown.HtmlBlock
import CardPress.Markdown.Inlines
import CardPress.Markdown.Interrupt
import CardPress.Markdown.Line
import CardPress.Markdown.Page
import CardPress.Markdown.Passage
import CardPress.Markdown.Region
import CardPress.Markdown.Start
import CardPress.Markdown.Tag
import CardPress.Markdown.Target
import CardPress.Markdown.Token
import CardPress.Options
import CardPress.Proofs.Card.Wire
import CardPress.Proofs.Command.Compact
import CardPress.Proofs.Command.Delivery
import CardPress.Proofs.Conversion.Layering
import CardPress.Proofs.Conversion.LineEndings
import CardPress.Proofs.Conversion.Reports
import CardPress.Proofs.Document.BlockSteps
import CardPress.Proofs.Document.Changes
import CardPress.Proofs.Document.Conservation
import CardPress.Proofs.Document.Decode
import CardPress.Proofs.Document.Flattening
import CardPress.Proofs.Document.Forest
import CardPress.Proofs.Document.FrontMatter
import CardPress.Proofs.Document.Groups
import CardPress.Proofs.Document.InlineNesting
import CardPress.Proofs.Document.Levels
import CardPress.Proofs.Document.Progress
import CardPress.Proofs.Document.Quoting
import CardPress.Proofs.Document.SiblingLines
import CardPress.Proofs.Document.Spans
import CardPress.Proofs.Document.Surroundings
import CardPress.Proofs.Document.TableTokens
import CardPress.Proofs.Document.TokenIndex
import CardPress.Proofs.Document.Vocabulary
import CardPress.Proofs.Document.Walk
import CardPress.Proofs.Fallible
import CardPress.Proofs.Json.RoundTrip
import CardPress.Proofs.Markdown.Containers
import CardPress.Proofs.Markdown.Extent
import CardPress.Proofs.Markdown.Forests
import CardPress.Proofs.Markdown.FrontMatter
import CardPress.Proofs.Markdown.Nesting
import CardPress.Proofs.Markdown.Tables
import CardPress.Proofs.Options.FrontMatter
import CardPress.Proofs.Options.Layers
import CardPress.Proofs.Options.Roots
import CardPress.Proofs.Render.BlankPlaces
import CardPress.Proofs.Render.FailFast
import CardPress.Proofs.Render.Layout
import CardPress.Proofs.Render.Leaves
import CardPress.Proofs.Render.Recovery
import CardPress.Proofs.Render.Separators
import CardPress.Proofs.Render.ShownText
import CardPress.Proofs.Render.TableCells
import CardPress.Proofs.Yaml.PowerKey
import CardPress.Render.Dispatch
import CardPress.Render.Pass
import CardPress.Render.Runs
import CardPress.Text.Blank
import CardPress.Text.Case
import CardPress.Text.CodeText
import CardPress.Text.Digits
import CardPress.Text.Entity
import CardPress.Text.Lines
import CardPress.Text.Printable
import CardPress.Text.Punctuation
import CardPress.Text.Quoted
import CardPress.Text.Ranges
import CardPress.Text.Search
import CardPress.Text.Utf8
import CardPress.Url.Address
import CardPress.Url.Link
import CardPress.Url.Percent
import CardPress.Url.Punycode
import CardPress.Yaml.Base64
import CardPress.Yaml.Cursor
import CardPress.Yaml.Failure
import CardPress.Yaml.Load
import CardPress.Yaml.Moment
import CardPress.Yaml.Node
import CardPress.Yaml.Resolve
import CardPress.Yaml.Scalar
import CardPress.Yaml.Token
import CardPress.Yaml.Value
