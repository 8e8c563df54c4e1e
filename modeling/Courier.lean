import Courier.Builder
import Courier.Bytes
import Courier.Charset.CodePoint
import Courier.Charset.Codec
import Courier.Charset.Coding
import Courier.Charset.Escape
import Courier.Charset.Line
import Courier.Charset.Punycode
import Courier.Charset.SingleByte
import Courier.Charset.Unicode
import Courier.Charset.Utf7
import Courier.Cli
import Courier.Cli.Arguments
import Courier.Cli.Console
import Courier.Cli.Send
import Courier.Cli.Similar
import Courier.Client
import Courier.Client.Retry
import Courier.Config
import Courier.Config.Setting
import Courier.Decimal.Reading
import Courier.Decimal.Shortest
import Courier.Entity
import Courier.Failure
import Courier.Form
import Courier.Machine
import Courier.Machine.FileSystem
import Courier.Machine.Journal
import Courier.Machine.Path
import Courier.Main
import Courier.Mime.FileName
import Courier.Mime.Parameter
import Courier.Mime.Sniff
import Courier.Multipart.Draft
import Courier.Multipart.Field
import Courier.Multipart.Parse
import Courier.Net.Exchange
import Courier.Net.Headers
import Courier.Net.HostName
import Courier.Net.HostName.Characters
import Courier.Net.HostName.Label
import Courier.Net.Message
import Courier.Net.Redirect
import Courier.Net.Transmission
import Courier.Net.Url
import Courier.Net.Url.Host
import Courier.Net.Url.Resolve
import Courier.Platform
import Courier.Platform.Plain
import Courier.Proofs.Action
import Courier.Proofs.Builder.Accepted
import Courier.Proofs.Builder.Access
import Courier.Proofs.Builder.AccessCounts
import Courier.Proofs.Builder.Answer
import Courier.Proofs.Builder.Declared
import Courier.Proofs.Builder.History
import Courier.Proofs.Builder.Interleaved
import Courier.Proofs.Builder.Makes
import Courier.Proofs.Builder.Multipart
import Courier.Proofs.Builder.Outcome
import Courier.Proofs.Builder.Split
import Courier.Proofs.Builder.Stable
import Courier.Proofs.Builder.Window
import Courier.Proofs.Charset.HeaderLine
import Courier.Proofs.Charset.Name
import Courier.Proofs.Charset.Points
import Courier.Proofs.Charset.Replace
import Courier.Proofs.Charset.RoundTrip
import Courier.Proofs.Charset.Stream
import Courier.Proofs.Charset.Utf8
import Courier.Proofs.Cli.Decide
import Courier.Proofs.Cli.Option
import Courier.Proofs.Cli.Order
import Courier.Proofs.Cli.Send
import Courier.Proofs.Client.Answer
import Courier.Proofs.Client.Attempt
import Courier.Proofs.Client.Carry
import Courier.Proofs.Client.Headers
import Courier.Proofs.Client.History
import Courier.Proofs.Client.Lifecycle
import Courier.Proofs.Client.Manner
import Courier.Proofs.Client.Protocol
import Courier.Proofs.Config.Environment
import Courier.Proofs.Config.Field
import Courier.Proofs.Entity.Consume
import Courier.Proofs.Entity.Drain
import Courier.Proofs.Entity.Fetch
import Courier.Proofs.Entity.Length
import Courier.Proofs.Entity.Usage
import Courier.Proofs.Form.Escape
import Courier.Proofs.Form.RoundTrip
import Courier.Proofs.Machine.Aside
import Courier.Proofs.Machine.FileSystem
import Courier.Proofs.Mime.Charset
import Courier.Proofs.Mime.LineBreak
import Courier.Proofs.Mime.Parameter
import Courier.Proofs.Mime.Window
import Courier.Proofs.Multipart.Body
import Courier.Proofs.Multipart.Boundary
import Courier.Proofs.Multipart.Chunks
import Courier.Proofs.Multipart.Escape
import Courier.Proofs.Multipart.HeaderBlock
import Courier.Proofs.Multipart.Parse
import Courier.Proofs.Multipart.RoundTrip
import Courier.Proofs.Net.Transmission
import Courier.Proofs.Response.Allowed
import Courier.Proofs.Response.FirstOccurrence
import Courier.Proofs.Response.Group
import Courier.Proofs.Response.Text
import Courier.Proofs.Source.Chunks
import Courier.Proofs.Source.Drain
import Courier.Proofs.Source.Plain
import Courier.Proofs.Source.Reading
import Courier.Proofs.Text.Case
import Courier.Proofs.Text.Digit
import Courier.Request
import Courier.Response
import Courier.Source
import Courier.Source.Stream
import Courier.Text.Blank
import Courier.Text.Case
import Courier.Text.CaseTable
import Courier.Text.CharacterName
import Courier.Text.CharacterName.Alias
import Courier.Text.CharacterName.Ancient
import Courier.Text.CharacterName.Asian
import Courier.Text.CharacterName.European
import Courier.Text.CharacterName.Notation
import Courier.Text.CharacterName.Phonetic
import Courier.Text.CharacterName.Picture
import Courier.Text.CharacterName.Presentation
import Courier.Text.CharacterName.Sign
import Courier.Text.CharacterName.Syllable
import Courier.Text.Composition
import Courier.Text.CompositionTable
import Courier.Text.Digit
import Courier.Text.Hangul
import Courier.Text.Mark
import Courier.Text.Printable
import Courier.Text.Quoted
import Courier.Text.Ranges
import Courier.Text.Split
import Courier.Trust
