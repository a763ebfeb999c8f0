import Sctp.Bytes
import Sctp.Padding
import Sctp.Text.Radix
import Sctp.Text.Lines
import Sctp.Text.Ranges
import Sctp.Text.Visible
import Sctp.Text.Alphabetic
import Sctp.Text.Alphanumeric
import Sctp.Text.Decimal
import Sctp.Text.Pattern.Atom
import Sctp.Text.Pattern.Bracket
import Sctp.Text.Pattern
import Sctp.Text.Quoted
import Sctp.Text.Utf8
import Sctp.Text.Utc
import Sctp.Text.Address
import Sctp.Code.Table
import Sctp.Code.Registry
import Sctp.Param
import Sctp.Chunk.Raw
import Sctp.Chunk.Area
import Sctp.Chunk.Fields
import Sctp.Chunk.Announced
import Sctp.Chunk
import Sctp.Header
import Sctp.Checksum
import Sctp.Packet
import Sctp.Frame.LinkType
import Sctp.Frame
import Sctp.Capture.PacketBlock
import Sctp.Capture.Block
import Sctp.Capture.NameRecord
import Sctp.Capture.FileTree
import Sctp.Capture.Pcap
import Sctp.Capture.Pcapng
import Sctp.Capture.Window
import Sctp.Capture.Delimits
import Sctp.Capture.Reader
import Sctp.Capture.Framing
import Sctp.Capture.Stream
import Sctp.Capture.Recording
import Sctp.Report.Tally
import Sctp.Report.Log
import Sctp.Report.Directive
import Sctp.Report.Filter
import Sctp.Report.Verdict
import Sctp.Report.Ledger
import Sctp.Report.Statistics
import Sctp.Report.CommandLine
import Sctp.Report.Run
import Sctp.Main
import Sctp.Proofs.Tiling
import Sctp.Proofs.Deferred
import Sctp.Proofs.Encapsulation
import Sctp.Proofs.Utf8
import Sctp.Proofs.Projection
import Sctp.Proofs.Sent
import Sctp.Proofs.RoundTrip
import Sctp.Proofs.Register
import Sctp.Proofs.BitwiseSum
import Sctp.Proofs.Linearity
import Sctp.Proofs.Detection
import Sctp.Proofs.Batching
import Sctp.Proofs.Accounting
import Sctp.Proofs.CutArea
import Sctp.Proofs.CutFrame
import Sctp.Proofs.Pad
import Sctp.Proofs.Streaming
import Sctp.Proofs.Overflow
import Sctp.Proofs.CaptureRun
import Sctp.Proofs.ParsedForm
import Sctp.Proofs.PortFilter
import Sctp.Proofs.Switches
import Sctp.Proofs.BrokenOff
import Sctp.Proofs.CutCapture
import Sctp.Proofs.ParamTiling
import Sctp.Proofs.CutParams
import Sctp.Proofs.SackArrays
import Sctp.Proofs.PadOctets
import Sctp.Proofs.Isolation
import Sctp.Proofs.Guessing
import Sctp.Proofs.Spelling
import Sctp.Proofs.Turns
import Sctp.Proofs.Instants
import Sctp.Proofs.Settling
import Sctp.Proofs.Timekeeping
import Sctp.Proofs.Heads
import Sctp.Proofs.Printable
