import TickWire.Buffer
import TickWire.Bytes.Hex
import TickWire.Bytes.LittleEndian
import TickWire.Bytes.Sha256
import TickWire.Coded
import TickWire.Command.Arguments
import TickWire.Command.Error
import TickWire.Command.Live
import TickWire.Command.Options
import TickWire.Command.Output
import TickWire.Command.Replay
import TickWire.Error
import TickWire.Live.Channel
import TickWire.Live.Delivery
import TickWire.Live.Error
import TickWire.Live.Handshake
import TickWire.Live.Link
import TickWire.Live.Session
import TickWire.Live.Settings
import TickWire.Live.Subscription
import TickWire.Main
import TickWire.Market
import TickWire.Metadata.Basic
import TickWire.Metadata.Decode
import TickWire.Metadata.Encode
import TickWire.Price
import TickWire.Proofs.Buffer
import TickWire.Proofs.Command.Live
import TickWire.Proofs.Command.Replay
import TickWire.Proofs.Command.Selection
import TickWire.Proofs.Live.Authentication
import TickWire.Proofs.Live.Bounds
import TickWire.Proofs.Live.Channel
import TickWire.Proofs.Live.Delivery
import TickWire.Proofs.Live.Effects
import TickWire.Proofs.Live.Filling
import TickWire.Proofs.Live.Handshake
import TickWire.Proofs.Live.Interruption
import TickWire.Proofs.Live.Lifecycle
import TickWire.Proofs.Live.Link
import TickWire.Proofs.Live.Listening
import TickWire.Proofs.Live.LongLine
import TickWire.Proofs.Live.Malformed
import TickWire.Proofs.Live.Opening
import TickWire.Proofs.Live.ReplayStart
import TickWire.Proofs.Live.Reply
import TickWire.Proofs.Live.Requests
import TickWire.Proofs.Live.Response
import TickWire.Proofs.Live.Session
import TickWire.Proofs.Live.Streaming
import TickWire.Proofs.Live.Subscription
import TickWire.Proofs.Live.Waiting
import TickWire.Proofs.Live.Writes
import TickWire.Proofs.Metadata.Extent
import TickWire.Proofs.Metadata.Fields
import TickWire.Proofs.Metadata.Legible
import TickWire.Proofs.Metadata.NormalForm
import TickWire.Proofs.Metadata.PackedDate
import TickWire.Proofs.Metadata.Prelude
import TickWire.Proofs.Metadata.Reader
import TickWire.Proofs.Metadata.Resolution
import TickWire.Proofs.Metadata.RoundTrip
import TickWire.Proofs.Metadata.Unversioned
import TickWire.Proofs.Metadata.Update
import TickWire.Proofs.Outcome
import TickWire.Proofs.Price
import TickWire.Proofs.Queue
import TickWire.Proofs.Record.Codec
import TickWire.Proofs.Record.Diagnostic
import TickWire.Proofs.Record.ErrorText
import TickWire.Proofs.Record.IndexTime
import TickWire.Proofs.Record.Legacy
import TickWire.Proofs.Record.Ownership
import TickWire.Proofs.Record.Size
import TickWire.Proofs.Record.StoredText
import TickWire.Proofs.Record.Upgrade
import TickWire.Proofs.Record.View
import TickWire.Proofs.Record.Walk
import TickWire.Proofs.Stream.Copying
import TickWire.Proofs.Stream.File
import TickWire.Proofs.Stream.Framing
import TickWire.Proofs.Stream.Lazy
import TickWire.Proofs.Stream.Reencoding
import TickWire.Proofs.Stream.Sink
import TickWire.Proofs.Stream.Source
import TickWire.Proofs.Stream.Typed
import TickWire.Proofs.Text.Decimal
import TickWire.Proofs.Text.Line
import TickWire.Proofs.Text.Terminated
import TickWire.Proofs.Text.Utf8
import TickWire.Proofs.Time.Calendar
import TickWire.Proofs.Time.Date
import TickWire.Proofs.Time.Timestamp
import TickWire.Record.Accessor
import TickWire.Record.Basic
import TickWire.Record.Construct
import TickWire.Record.Diagnostic
import TickWire.Record.Field
import TickWire.Record.Frame
import TickWire.Record.Kind
import TickWire.Record.Layout
import TickWire.Record.Legacy
import TickWire.Schema
import TickWire.Stream.Cursor
import TickWire.Stream.Decoder
import TickWire.Stream.Encoder
import TickWire.Stream.Lazy
import TickWire.Stream.Sink
import TickWire.Stream.Source
import TickWire.Text.CharacterClass
import TickWire.Text.Decimal
import TickWire.Text.Padded
import TickWire.Text.Quoted
import TickWire.Text.Segment
import TickWire.Text.Terminated
import TickWire.Text.Utf8
import TickWire.Time.Date
import TickWire.Time.Timestamp
