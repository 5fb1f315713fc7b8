import Scriptorium.Cache
import Scriptorium.Cache.Desk
import Scriptorium.Cache.Parties
import Scriptorium.CommandLine
import Scriptorium.Console
import Scriptorium.Journal
import Scriptorium.Main
import Scriptorium.Margin.Basic
import Scriptorium.Margin.Bookmarks
import Scriptorium.Margin.Command
import Scriptorium.Margin.Description
import Scriptorium.Margin.Edits
import Scriptorium.Margin.Markers
import Scriptorium.Margin.Notify
import Scriptorium.Margin.Reconcile
import Scriptorium.Number.Binary64
import Scriptorium.Number.Numeral
import Scriptorium.Number.Timespan
import Scriptorium.Observable
import Scriptorium.Parameter.Extraction
import Scriptorium.Parameter.Naming
import Scriptorium.Proofs.Cache.Download
import Scriptorium.Proofs.Cache.Interleaved
import Scriptorium.Proofs.Cache.Provenance
import Scriptorium.Proofs.Margin.Account
import Scriptorium.Proofs.Margin.Adoption
import Scriptorium.Proofs.Margin.Aggregate
import Scriptorium.Proofs.Margin.Breakpoints
import Scriptorium.Proofs.Margin.Carried
import Scriptorium.Proofs.Margin.Considerate
import Scriptorium.Proofs.Margin.Consistent
import Scriptorium.Proofs.Margin.Course
import Scriptorium.Proofs.Margin.DebugPoint
import Scriptorium.Proofs.Margin.Deletion
import Scriptorium.Proofs.Margin.Departure
import Scriptorium.Proofs.Margin.Footing
import Scriptorium.Proofs.Margin.Loyal
import Scriptorium.Proofs.Margin.Mirror
import Scriptorium.Proofs.Margin.Notified
import Scriptorium.Proofs.Margin.Reconciled
import Scriptorium.Proofs.Margin.Recorder
import Scriptorium.Proofs.Margin.Reentrant
import Scriptorium.Proofs.Margin.Refused
import Scriptorium.Proofs.Margin.Rejected
import Scriptorium.Proofs.Margin.Ruling
import Scriptorium.Proofs.Margin.Run
import Scriptorium.Proofs.Margin.Settled
import Scriptorium.Proofs.Margin.Shared
import Scriptorium.Proofs.Margin.Sheet
import Scriptorium.Proofs.Margin.Sifted
import Scriptorium.Proofs.Margin.Spared
import Scriptorium.Proofs.Margin.Stable
import Scriptorium.Proofs.Margin.Tactful
import Scriptorium.Proofs.Margin.Toggled
import Scriptorium.Proofs.Margin.Undisturbed
import Scriptorium.Proofs.Margin.Woven
import Scriptorium.Proofs.Observable.Chain
import Scriptorium.Proofs.Observable.Overtaken
import Scriptorium.Proofs.Parameter.Constraint
import Scriptorium.Proofs.Parameter.Indifferent
import Scriptorium.Proofs.Parameter.Scope
import Scriptorium.Proofs.Parameter.Specified
import Scriptorium.Proofs.Remote.History
import Scriptorium.Proofs.Remote.VersionAddress
import Scriptorium.Proofs.Remote.Withstood
import Scriptorium.Proofs.Session.Loaded
import Scriptorium.Proofs.Session.Reparse
import Scriptorium.Proofs.Session.Title
import Scriptorium.Proofs.Signal.Conduct
import Scriptorium.Proofs.Signal.Handle
import Scriptorium.Proofs.Signal.Record
import Scriptorium.Proofs.Text.Trim
import Scriptorium.Proofs.Tracker.Lines
import Scriptorium.Proofs.Tracker.Listed
import Scriptorium.Proofs.Tracker.Order
import Scriptorium.Proofs.Tracker.Parts
import Scriptorium.Proofs.Tracker.Passage
import Scriptorium.Proofs.Tracker.Run
import Scriptorium.Proofs.Tracker.Spans
import Scriptorium.Proofs.Tree.Body
import Scriptorium.Proofs.Tree.Boundary
import Scriptorium.Proofs.Tree.Descendants
import Scriptorium.Proofs.Tree.Excerpt
import Scriptorium.Proofs.Tree.Faithful
import Scriptorium.Proofs.Tree.Faults
import Scriptorium.Proofs.Tree.Frame
import Scriptorium.Proofs.Tree.Inside
import Scriptorium.Proofs.Tree.OffsetTable
import Scriptorium.Proofs.Tree.Path
import Scriptorium.Registry
import Scriptorium.Remote.Client
import Scriptorium.Remote.Failure
import Scriptorium.Remote.Fallback
import Scriptorium.Remote.Service
import Scriptorium.Remote.Shelf
import Scriptorium.Remote.Variant
import Scriptorium.ScriptPath
import Scriptorium.Session
import Scriptorium.Settings
import Scriptorium.Signal
import Scriptorium.Span
import Scriptorium.Standin.Client
import Scriptorium.Standin.Client.ContentType
import Scriptorium.Standin.Client.Header
import Scriptorium.Standin.Client.Host
import Scriptorium.Standin.Client.Url
import Scriptorium.Standin.Console
import Scriptorium.Standin.Console.ColorName
import Scriptorium.Standin.Console.Display
import Scriptorium.Standin.Console.Emoji
import Scriptorium.Standin.Console.EmojiName
import Scriptorium.Standin.Console.Grapheme
import Scriptorium.Standin.Console.Layout
import Scriptorium.Standin.Console.Markup
import Scriptorium.Standin.Console.TagStyle
import Scriptorium.Standin.Console.Width
import Scriptorium.Standin.Console.Wrap
import Scriptorium.Standin.Domain.Company
import Scriptorium.Standin.Domain.Composition
import Scriptorium.Standin.Domain.Direction
import Scriptorium.Standin.Domain.Label
import Scriptorium.Standin.Domain.Letter
import Scriptorium.Standin.Domain.Mark
import Scriptorium.Standin.Domain.Name
import Scriptorium.Standin.Domain.Syllable
import Scriptorium.Standin.Encoding.Catalogue
import Scriptorium.Standin.Encoding.CodePage
import Scriptorium.Standin.Encoding.Escaped
import Scriptorium.Standin.Encoding.Grid
import Scriptorium.Standin.Encoding.Reader
import Scriptorium.Standin.Encoding.Switching
import Scriptorium.Standin.Encoding.Utf7
import Scriptorium.Standin.Encoding.Wide
import Scriptorium.Standin.Punycode
import Scriptorium.Text.Base64
import Scriptorium.Text.Capital
import Scriptorium.Text.Class
import Scriptorium.Text.Percent
import Scriptorium.Text.Printable
import Scriptorium.Text.Quoted
import Scriptorium.Text.Small
import Scriptorium.Text.Utf8
import Scriptorium.Tracker
import Scriptorium.Tree.Listing
import Scriptorium.Tree.Node
import Scriptorium.Tree.Parse
import Scriptorium.Proofs.CommandLine.Literal
