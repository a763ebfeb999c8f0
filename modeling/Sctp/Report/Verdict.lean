import Sctp.Frame
import Sctp.Packet
import Sctp.Capture.PacketBlock
import Sctp.Report.Log
import Sctp.Report.Tally
import Sctp.Text.Lines

/-! What is made of a captured frame, and what follows from it: the counters it moves, the events it
logs and the lines it dumps. All of these depend on the verdict and the options alone, and not on the
frames before. -/
namespace Sctp.Report

structure Options where
  dump : Bool := false
  lazy : Bool := false
  port : Option UInt16 := none
  checksum : Bool := false
  deriving DecidableEq

inductive Verdict
  /-- The headers before SCTP cannot be followed. -/
  | unreadable (fault : HeaderError)
  | otherTraffic
  /-- The SCTP packet has no whole common header. -/
  | tooShort (fault : HeaderError)
  | filtered (packet : Packet)
  | sctp (found : Found) (packet : Packet)
  deriving DecidableEq

def Counter.ofHeaderError : HeaderError → Counter
  | .tooShort _ => tooShort
  | .invalid _ => invalid
  | .insufficientLength _ => insufficientLength

/-- The counter of an end of the chunk area, if that end is counted. -/
def Counter.ofStatus? : AreaStatus → Option Counter
  | .complete => none
  | .trailing _ _ => some trailing
  | .badLength _ _ _ => some badLength
  | .truncated _ _ _ => some truncated

namespace Verdict

def ofFrame (port : Option UInt16) (link : LinkType) (frame : Bytes) : Verdict :=
  match Frame.find? link frame with
  | .error fault => unreadable fault
  | .ok none => otherTraffic
  | .ok (some found) =>
    match Packet.decode found.payload with
    | .error fault => tooShort fault
    | .ok packet => if port.all packet.hasPort then sctp found packet else filtered packet

/-- The packet's checksum was looked at and is wrong. -/
def isMismatch (options : Options) (packet : Packet) : Bool := options.checksum && !packet.verifies

/-- The counters that go up by one, besides that of all packets. -/
def charges (options : Options) : Verdict → List Counter
  | unreadable fault => [.ofHeaderError fault]
  | otherTraffic => [.notSctp]
  | tooShort _ => [.sctpTooShort]
  | filtered _ => [.filtered]
  | sctp _ packet =>
    .sctp :: ((Counter.ofStatus? packet.status).toList ++ packet.chunks.map (.chunks ·.kind)
      ++ if isMismatch options packet then [.badChecksum] else [])

def stuntedEvent (chunk : Chunk) : Event where
  level := .debug
  target := .chunkArea
  message := "SCTP chunk body too short for its fixed fields"
  fields := [("chunk_type", chunk.raw.typeText), ("body_len", toString chunk.raw.body.length)]

def areaEvent (packet : Packet) : Event where
  level := .debug
  target := .chunkArea
  message := "SCTP chunk area ended early"
  fields := [("status", packet.status.text), ("chunks", toString packet.chunks.length)]

def packetEvent (packet : Packet) : Event where
  level := .debug
  target := .packet
  message := "SCTP packet with malformed chunk area"
  fields :=
    [("src_port", toString packet.header.srcPort.toNat), ("dst_port", toString packet.header.dstPort.toNat),
      ("status", packet.status.text)]

def stuntedEvents (chunks : List Chunk) : List Event := (chunks.filter Chunk.isStunted).map stuntedEvent

/-- The events of a chunk area in the order of its walk: a walk that ends within a chunk says so before
it looks at that chunk, all others end after the last chunk. -/
def decodeEvents (packet : Packet) : List Event :=
  match packet.status with
  | .complete => stuntedEvents packet.chunks
  | .truncated _ _ _ =>
    stuntedEvents packet.chunks.dropLast ++ [areaEvent packet] ++ stuntedEvents packet.chunks.getLast?.toList
      ++ [packetEvent packet]
  | _ => stuntedEvents packet.chunks ++ [areaEvent packet, packetEvent packet]

def events (options : Options) (number : Nat) : Verdict → List Event
  | unreadable fault =>
    [⟨.trace, .inspection, "frame not decoded", [("packet", toString number), ("error", fault.message)]⟩]
  | otherTraffic => []
  | tooShort fault =>
    [⟨.debug, .inspection, "SCTP payload too short", [("packet", toString number), ("error", fault.message)]⟩]
  | filtered packet => decodeEvents packet
  | sctp _ packet =>
    decodeEvents packet ++
      if isMismatch options packet then
        [⟨.debug, .inspection, "SCTP checksum mismatch",
          [("packet", toString number), ("checksum", toString packet.header.checksum.toNat)]⟩]
      else []

/-- The lines of a packet: number, time, addresses and size of the frame; the summary; a line for every
chunk; and the end of the chunk area, unless that is complete. -/
def packetLines (number : Nat) (block : Capture.PacketBlock) (found : Found) (packet : Packet) : List String :=
  let place := Text.padLeft ' ' 5 (toString number)
  s!"{place}   {block.time.text} {found.src.text} -> {found.dst.text} ({block.data.length} bytes)" ::
    ("        " ++ packet.text) ::
    (packet.chunks.map (fun chunk => "          " ++ chunk.text)
      ++ if packet.status.isComplete then [] else ["          (" ++ packet.status.text ++ ")"])

/-- What is written of the packet: nothing unless it carried SCTP and dumps are asked for. -/
def dumpLines? (options : Options) (number : Nat) (block : Capture.PacketBlock) : Verdict → Option (List String)
  | sctp found packet =>
    if options.dump then
      some (packetLines number block found (if options.lazy then packet else packet.parse))
    else none
  | _ => none

def dump? (options : Options) (number : Nat) (block : Capture.PacketBlock) (verdict : Verdict) : Option String :=
  (verdict.dumpLines? options number block).map Text.unlines

/-- A dump tells the time of the packet, and where that overflows a build that checks its arithmetic gives
the run up. -/
def aborts (arithmetic : Capture.Arithmetic) (options : Options) (block : Capture.PacketBlock) : Verdict → Bool
  | sctp _ _ => arithmetic == .checked && options.dump && block.overflows
  | _ => false

end Verdict

end Sctp.Report
