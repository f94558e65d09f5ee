import WikiPress.Collapsible.Marker
import WikiPress.Collapsible.Passage
import WikiPress.Command.Arguments
import WikiPress.Command.Run
import WikiPress.Config.Basic
import WikiPress.Config.File
import WikiPress.Date.Civil
import WikiPress.Date.Format
import WikiPress.Date.Numeral
import WikiPress.Datum.Basic
import WikiPress.Datum.Json
import WikiPress.Datum.TomlPrinter
import WikiPress.Datum.TomlReader
import WikiPress.Datum.TomlScalar
import WikiPress.Document.Basic
import WikiPress.Excerpt
import WikiPress.Fence
import WikiPress.Files.Change
import WikiPress.Files.Location
import WikiPress.Files.Tree
import WikiPress.Html.Body
import WikiPress.Html.Builder
import WikiPress.Html.Forest
import WikiPress.Html.Formatting
import WikiPress.Html.Head
import WikiPress.Html.Node
import WikiPress.Html.Page
import WikiPress.Html.Reference
import WikiPress.Html.Role
import WikiPress.Html.Table
import WikiPress.Html.Token
import WikiPress.Main
import WikiPress.Markdown.Address
import WikiPress.Markdown.Document
import WikiPress.Markdown.Draft
import WikiPress.Markdown.Emphasis
import WikiPress.Markdown.Escape
import WikiPress.Markdown.Frame
import WikiPress.Markdown.Link
import WikiPress.Markdown.Markup
import WikiPress.Markdown.Notes
import WikiPress.Markdown.Opening
import WikiPress.Markdown.RawHtml
import WikiPress.Markdown.Row
import WikiPress.Markdown.Span
import WikiPress.Markdown.Syntax
import WikiPress.Marks
import WikiPress.Outline.Basic
import WikiPress.Outline.Contents
import WikiPress.Outline.Folding
import WikiPress.Page.Article
import WikiPress.Page.Assembly
import WikiPress.Page.Classes
import WikiPress.Page.Heading
import WikiPress.Page.Links
import WikiPress.Page.Markup
import WikiPress.Page.Options
import WikiPress.Page.Parts
import WikiPress.Page.Render
import WikiPress.Path
import WikiPress.Pattern.Bracket
import WikiPress.Pattern.CharSet
import WikiPress.Pattern.Escape
import WikiPress.Pattern.Flags
import WikiPress.Pattern.Matching
import WikiPress.Pattern.Named
import WikiPress.Pattern.Reader
import WikiPress.Pattern.Replacement
import WikiPress.Pattern.Syntax
import WikiPress.Proofs.Collapsible.Balance
import WikiPress.Proofs.Collapsible.Conservation
import WikiPress.Proofs.Collapsible.Frames
import WikiPress.Proofs.Collapsible.Innermost
import WikiPress.Proofs.Collapsible.Insertion
import WikiPress.Proofs.Collapsible.Marker
import WikiPress.Proofs.Collapsible.RoundTrip
import WikiPress.Proofs.Collapsible.Ways
import WikiPress.Proofs.Config.Merging
import WikiPress.Proofs.Config.Settings
import WikiPress.Proofs.Document.Header
import WikiPress.Proofs.Document.Order
import WikiPress.Proofs.Excerpt.MaximalRuns
import WikiPress.Proofs.Excerpt.Occurrences
import WikiPress.Proofs.Excerpt.Reading
import WikiPress.Proofs.Excerpt.Windows
import WikiPress.Proofs.Fence
import WikiPress.Proofs.Files.Growth
import WikiPress.Proofs.Files.Location
import WikiPress.Proofs.Files.Tree
import WikiPress.Proofs.Files.Writing
import WikiPress.Proofs.Html.Content
import WikiPress.Proofs.Html.Forest
import WikiPress.Proofs.Html.Listing
import WikiPress.Proofs.Html.Paragraph
import WikiPress.Proofs.Html.Source
import WikiPress.Proofs.Listing
import WikiPress.Proofs.Markdown.Destination
import WikiPress.Proofs.Markdown.FencedCode
import WikiPress.Proofs.Markdown.Frames
import WikiPress.Proofs.Markdown.LinkTargets
import WikiPress.Proofs.Markdown.Listing
import WikiPress.Proofs.Markdown.OpenBlocks
import WikiPress.Proofs.Markdown.Reading
import WikiPress.Proofs.Markdown.Scanners
import WikiPress.Proofs.Markdown.Swap
import WikiPress.Proofs.Markdown.TopLevel
import WikiPress.Proofs.Markdown.Writing
import WikiPress.Proofs.Marks
import WikiPress.Proofs.Outline.Clicks
import WikiPress.Proofs.Outline.Contents
import WikiPress.Proofs.Outline.Descent
import WikiPress.Proofs.Outline.Flags
import WikiPress.Proofs.Outline.Folding
import WikiPress.Proofs.Outline.Nesting
import WikiPress.Proofs.Outline.Owners
import WikiPress.Proofs.Outline.Rows
import WikiPress.Proofs.Page.Anchors
import WikiPress.Proofs.Page.Isolation
import WikiPress.Proofs.Page.Listing
import WikiPress.Proofs.Page.Notes
import WikiPress.Proofs.Page.Numbering
import WikiPress.Proofs.Page.Places
import WikiPress.Proofs.Page.Renumbering
import WikiPress.Proofs.Path
import WikiPress.Proofs.Path.Canonical
import WikiPress.Proofs.Path.Removal
import WikiPress.Proofs.Script.Lexing
import WikiPress.Proofs.Script.Reading
import WikiPress.Proofs.Script.RoundTrip
import WikiPress.Proofs.Script.Sums
import WikiPress.Proofs.Search.Agreement
import WikiPress.Proofs.Search.Tags
import WikiPress.Proofs.Site.Build
import WikiPress.Proofs.Site.Confinement
import WikiPress.Proofs.Site.Faithful
import WikiPress.Proofs.Site.Output
import WikiPress.Proofs.Site.SameDocument
import WikiPress.Proofs.Site.Source
import WikiPress.Proofs.Snippet.Alike
import WikiPress.Proofs.Snippet.Ancestors
import WikiPress.Proofs.Snippet.Clip
import WikiPress.Proofs.Snippet.Demote
import WikiPress.Proofs.Snippet.Depth
import WikiPress.Proofs.Snippet.Directive
import WikiPress.Proofs.Snippet.Failures
import WikiPress.Proofs.Snippet.Flight
import WikiPress.Proofs.Snippet.Grammar
import WikiPress.Proofs.Snippet.Headings
import WikiPress.Proofs.Snippet.Levels
import WikiPress.Proofs.Snippet.LineByLine
import WikiPress.Proofs.Snippet.LineEnds
import WikiPress.Proofs.Snippet.Parameters
import WikiPress.Proofs.Snippet.Placeholders
import WikiPress.Proofs.Snippet.Progress
import WikiPress.Proofs.Snippet.Residue
import WikiPress.Proofs.Snippet.Scan
import WikiPress.Proofs.Snippet.Schedule
import WikiPress.Proofs.Snippet.Sequential
import WikiPress.Proofs.Snippet.Session
import WikiPress.Proofs.Snippet.Shift
import WikiPress.Proofs.Snippet.Siblings
import WikiPress.Proofs.TagIndex.Completeness
import WikiPress.Proofs.TagIndex.Counts
import WikiPress.Proofs.TagIndex.Entries
import WikiPress.Proofs.TagIndex.Hierarchy
import WikiPress.Proofs.TagIndex.Links
import WikiPress.Proofs.Text.Basic
import WikiPress.Proofs.Text.Case
import WikiPress.Proofs.Text.Lines
import WikiPress.Proofs.Text.Order
import WikiPress.Proofs.Text.Separators
import WikiPress.Script.Engine
import WikiPress.Script.Expr
import WikiPress.Script.Token
import WikiPress.Script.Value
import WikiPress.Search
import WikiPress.Site.Basic
import WikiPress.Site.Build
import WikiPress.Site.Fault
import WikiPress.Site.Folder
import WikiPress.Snippet.Cache
import WikiPress.Snippet.Demote
import WikiPress.Snippet.Directive
import WikiPress.Snippet.Template
import WikiPress.Snippet.Transclusion
import WikiPress.TagIndex
import WikiPress.Text.Basic
import WikiPress.Text.Case
import WikiPress.Text.Category
import WikiPress.Text.Escape
import WikiPress.Text.Letter
import WikiPress.Text.NamedCharacter
import WikiPress.Text.Number
import WikiPress.Text.Punctuation
import WikiPress.Text.Quoted
import WikiPress.Text.ScriptData
import WikiPress.Text.Split
import WikiPress.TitleDirective
