import NewsWire.Article.Content
import NewsWire.Article.Extract
import NewsWire.Command.Arguments
import NewsWire.Command.Invocation
import NewsWire.Command.LogFilter
import NewsWire.Decimal.Shortest
import NewsWire.Feed.Item
import NewsWire.Feed.Page
import NewsWire.Feed.Source
import NewsWire.Http.Header
import NewsWire.Http.Exchange
import NewsWire.Http.Message
import NewsWire.Json.Cursor
import NewsWire.Json.Decoder
import NewsWire.Json.Value
import NewsWire.Json.Printer
import NewsWire.Json.Reader
import NewsWire.Json.Scan
import NewsWire.Json.Schema
import NewsWire.Json.Skip
import NewsWire.Main
import NewsWire.Markup.Event
import NewsWire.Markup.Reference
import NewsWire.Markup.Tag
import NewsWire.Markup.Token
import NewsWire.Payload.Basic
import NewsWire.Payload.Transform
import NewsWire.Poll.Config
import NewsWire.Poll.Dialogue
import NewsWire.Poll.Duration
import NewsWire.Poll.Event
import NewsWire.Poll.Failure
import NewsWire.Poll.Fetch
import NewsWire.Poll.Network
import NewsWire.Poll.Resolve
import NewsWire.Poll.Run
import NewsWire.Text.Blank
import NewsWire.Text.Charset
import NewsWire.Text.CombiningClass
import NewsWire.Text.Composed
import NewsWire.Text.Composite
import NewsWire.Text.Mark
import NewsWire.Text.Numeral
import NewsWire.Text.SingleByte
import NewsWire.Text.Unassigned
import NewsWire.Text.Utf8
import NewsWire.Url.Address
import NewsWire.Url.Basic
import NewsWire.Url.Domain
import NewsWire.Url.Domain.Direction
import NewsWire.Url.Domain.Joining
import NewsWire.Url.Domain.Label
import NewsWire.Url.Domain.Replacement
import NewsWire.Url.Parse
import NewsWire.Url.Punycode
import NewsWire.Proofs.Strand
import NewsWire.Proofs.Account
import NewsWire.Proofs.Order
import NewsWire.Proofs.Reference
import NewsWire.Proofs.Body
import NewsWire.Proofs.Fragment
import NewsWire.Proofs.Truncation
import NewsWire.Proofs.Cursor
import NewsWire.Proofs.Caller
import NewsWire.Proofs.Policy
import NewsWire.Proofs.Position
import NewsWire.Proofs.Key
import NewsWire.Proofs.Contract
import NewsWire.Proofs.Overrides
import NewsWire.Proofs.Invocation
import NewsWire.Proofs.Shape
import NewsWire.Proofs.Fields
import NewsWire.Proofs.Entries
import NewsWire.Proofs.Null
import NewsWire.Proofs.Texts
import NewsWire.Proofs.Again
import NewsWire.Proofs.Duration
import NewsWire.Proofs.Latency
import NewsWire.Proofs.Revision
import NewsWire.Proofs.Environment
import NewsWire.Proofs.Written
import NewsWire.Proofs.Alike
import NewsWire.Proofs.Keywords
import NewsWire.Proofs.Rearranged
import NewsWire.Proofs.Lenient
import NewsWire.Proofs.Pictures
import NewsWire.Proofs.OpenElements
import NewsWire.Proofs.Counters
