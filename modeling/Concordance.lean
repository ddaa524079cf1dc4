import Concordance.Command.Invocation
import Concordance.Command.LogFilter
import Concordance.Command.Process
import Concordance.Command.Reading
import Concordance.Command.Report
import Concordance.Command.Run
import Concordance.Command.Scope
import Concordance.Crawl.Config
import Concordance.Crawl.Crawler
import Concordance.Crawl.Directory
import Concordance.Crawl.Document
import Concordance.Crawl.Link
import Concordance.Crawl.Seed
import Concordance.Crawl.Wave
import Concordance.Disk.Basic
import Concordance.Disk.Files
import Concordance.Disk.Layout
import Concordance.Disk.Node
import Concordance.Disk.Route
import Concordance.Failure
import Concordance.Html.Anchor
import Concordance.Html.Block
import Concordance.Html.Content
import Concordance.Html.Pattern
import Concordance.Html.Piece
import Concordance.Html.Reference
import Concordance.Index.Basic
import Concordance.Index.DocumentSet
import Concordance.Index.Lookup
import Concordance.Index.Merge
import Concordance.Index.Phrase
import Concordance.Index.Records
import Concordance.Index.Statistics
import Concordance.Index.Validity
import Concordance.Journal
import Concordance.Json.Composite
import Concordance.Json.Numeral
import Concordance.Json.Quotation
import Concordance.Json.Reader
import Concordance.Json.Scalar
import Concordance.Json.Text
import Concordance.Json.Value
import Concordance.Main
import Concordance.Pattern.Basic
import Concordance.Pattern.Bracket
import Concordance.Pattern.CharSet
import Concordance.Pattern.Cursor
import Concordance.Pattern.Escape
import Concordance.Pattern.Meaning
import Concordance.Pattern.Nesting
import Concordance.Pattern.Problem
import Concordance.Pattern.Property
import Concordance.Pattern.Reader
import Concordance.Pattern.Search
import Concordance.Pattern.Size
import Concordance.Proofs.Crawl.Reach
import Concordance.Proofs.Crawl.Search
import Concordance.Proofs.Crawl.Waves
import Concordance.Proofs.Disk.Locate
import Concordance.Proofs.Index.Access
import Concordance.Proofs.Index.Corpus
import Concordance.Proofs.Index.Counting
import Concordance.Proofs.Index.Program
import Concordance.Proofs.Index.Run
import Concordance.Proofs.Index.Sound
import Concordance.Proofs.Json.Composite
import Concordance.Proofs.Json.Numeral
import Concordance.Proofs.Json.Quotation
import Concordance.Proofs.Json.Taking
import Concordance.Proofs.Query.Answer
import Concordance.Proofs.Query.Grammar
import Concordance.Proofs.Query.Meaning
import Concordance.Proofs.Query.Parsing
import Concordance.Proofs.Storage.Binary
import Concordance.Proofs.Storage.Document
import Concordance.Proofs.Storage.Listing
import Concordance.Proofs.Storage.Packed
import Concordance.Proofs.Text.LetterRuns
import Concordance.Query.Evaluation
import Concordance.Query.Parser
import Concordance.Query.Search
import Concordance.Query.Span
import Concordance.Query.Token
import Concordance.Query.Tree
import Concordance.Storage.Checksum
import Concordance.Storage.Document
import Concordance.Storage.Envelope
import Concordance.Storage.File
import Concordance.Storage.Format
import Concordance.Storage.Integer
import Concordance.Storage.Listing
import Concordance.Storage.Packed
import Concordance.Text.Basic
import Concordance.Text.CharClass
import Concordance.Text.CodePoints
import Concordance.Text.Composed
import Concordance.Text.Digit
import Concordance.Text.LowerCase
import Concordance.Text.Offset
import Concordance.Text.Quoted
import Concordance.Text.Table.CaseContext
import Concordance.Text.Table.Category
import Concordance.Text.Table.Composition
import Concordance.Text.Table.Direction
import Concordance.Text.Table.Edition
import Concordance.Text.Table.Escaped
import Concordance.Text.Table.Folding
import Concordance.Text.Table.HostMapping
import Concordance.Text.Table.Joining
import Concordance.Text.Table.Letters
import Concordance.Text.Table.Lowering
import Concordance.Text.Table.Script
import Concordance.Text.Table.Segment
import Concordance.Text.Table.Trait
import Concordance.Text.Table.WordMarks
import Concordance.Text.Utf8
import Concordance.Text.Word
import Concordance.Url.Address
import Concordance.Url.Direction
import Concordance.Url.Host
import Concordance.Url.Name
import Concordance.Url.Percent
import Concordance.Url.Punycode
import Concordance.Url.Reference
import Concordance.Url.Trail
import Concordance.Proofs.Text.CharClass
import Concordance.Proofs.Text.LowerCase
import Concordance.Proofs.Text.Words
import Concordance.Proofs.Query.Tokens
import Concordance.Proofs.Query.Printing
import Concordance.Proofs.Query.Canonical
import Concordance.Proofs.Index.Plan
import Concordance.Proofs.Index.Growth
import Concordance.Proofs.Json.Yields
import Concordance.Proofs.Storage.Bounds
import Concordance.Proofs.Storage.Lifetime
import Concordance.Proofs.Crawl.Failing
import Concordance.Proofs.Query.Merging
import Concordance.Proofs.Query.Spelling
import Concordance.Proofs.Query.Refusals
import Concordance.Proofs.Query.Slices
import Concordance.Proofs.Query.Places
import Concordance.Proofs.Query.Composition
import Concordance.Proofs.Url.Percent
import Concordance.Proofs.Crawl.Tally
import Concordance.Proofs.Crawl.Limit
import Concordance.Proofs.Index.Merging
import Concordance.Proofs.Query.Coverage
import Concordance.Proofs.Query.Resuming
import Concordance.Proofs.Query.Rereading
import Concordance.Proofs.Index.Adding
import Concordance.Proofs.Index.Change
import Concordance.Proofs.Query.Lasting
import Concordance.Proofs.Query.Passage
import Concordance.Proofs.Json.Refusing
import Concordance.Proofs.Json.Cutting
import Concordance.Proofs.Storage.Checksum
import Concordance.Proofs.Storage.Corruption
import Concordance.Proofs.Storage.Cutting
import Concordance.Proofs.Text.ByteOrder
import Concordance.Proofs.Index.Algebra
import Concordance.Proofs.Index.Layout
import Concordance.Proofs.Storage.Foreign
import Concordance.Proofs.Query.Nesting
import Concordance.Proofs.Query.Carets
import Concordance.Proofs.Query.Literals
import Concordance.Proofs.Query.Recasing
import Concordance.Proofs.Html.Reference
import Concordance.Proofs.Html.Pattern
import Concordance.Proofs.Html.Item
import Concordance.Proofs.Html.Visible
import Concordance.Proofs.Html.Chunks
import Concordance.Proofs.Disk.Tree
import Concordance.Proofs.Crawl.Expansion
import Concordance.Proofs.Url.Reading
import Concordance.Proofs.Crawl.Key
import Concordance.Proofs.Html.Target
import Concordance.Proofs.Html.Attribute
import Concordance.Proofs.Html.Hidden
import Concordance.Proofs.Crawl.Markup
import Concordance.Proofs.Disk.Writing
import Concordance.Proofs.Command.Page
import Concordance.Proofs.Command.Effects
import Concordance.Proofs.Disk.Frame
import Concordance.Proofs.Query.Passes
import Concordance.Proofs.Storage.Saving
