import Sctp.Header
import Sctp.Checksum
import Sctp.Chunk

/-! A packet: the common header and the chunks behind it. Only a missing header keeps a packet from being
decoded; whatever is wrong further on shows in the status of the chunk area. -/
namespace Sctp

structure Packet where
  header : Header
  area : Bytes
  chunks : List Chunk
  status : AreaStatus
  deriving DecidableEq

namespace Packet

def ofParts (header : Header) (area : Bytes) : Packet :=
  let walk := Area.walk area
  ⟨header, area, walk.1.map Chunk.ofRaw, walk.2⟩

def decode (octets : Bytes) : Except HeaderError Packet :=
  match Header.read? octets with
  | some (header, area) => .ok (ofParts header area)
  | none => .error (.tooShort .sctp)

def hasChunkArea (octets : Bytes) : Bool := Header.size < octets.length

def parseChunk (packet : Packet) (i : Nat) : Packet :=
  { packet with chunks := packet.chunks.modify i Chunk.parse }

def parse (packet : Packet) : Packet := { packet with chunks := packet.chunks.map Chunk.parse }

def hasPort (packet : Packet) (port : UInt16) : Bool :=
  packet.header.srcPort == port || packet.header.dstPort == port

def verifies (packet : Packet) : Bool :=
  let register := Checksum.update Checksum.initial packet.header.addressing
  let register := Checksum.update register [0, 0, 0, 0]
  Checksum.finish (Checksum.update register packet.area) == packet.header.checksum

def chunkSummary (chunk : Chunk) : String :=
  s!" [ {chunk.raw.typeCode.toNat} , {chunk.raw.length} , {chunk.raw.wireLength} ] "

def text (packet : Packet) : String :=
  s!"SCTP Layer, Src port: {packet.header.srcPort.toNat}, Dst port: {packet.header.dstPort.toNat}, "
    ++ s!"Verification Tag: {packet.header.tag.toNat}, Chunks: "
    ++ String.join (packet.chunks.map chunkSummary)

/-- The text of a packet all of whose parameters have been read, and that packet. -/
def render (packet : Packet) : String × Packet := (packet.parse.text, packet.parse)

end Packet

end Sctp
