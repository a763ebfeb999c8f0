import Sctp.Packet
import Sctp.Proofs.Utf8

/-! Packets as their sender means them, and the octets that carry them: a header and chunks with the values
of their fields, lists of parameters among them, and behind each chunk and each parameter the octets of its
pad. `Chunk.IsShown` says what a decoder has to give back of a chunk. -/
namespace Sctp.Sent

def gap (length : Nat) : Nat := align4 length - length

def lay {Item : Type} (octets : Item → Bytes) (entries : List (Item × Bytes)) : Bytes :=
  entries.flatMap fun entry => octets entry.1 ++ entry.2

/-- The pads are whole, whatever their octets are. Of the last one some octets or all may be missing. -/
def PadsFit {Item : Type} (octets : Item → Bytes) : List (Item × Bytes) → Prop
  | [] => True
  | entry :: later =>
    (entry.2.length = gap (octets entry.1).length ∨
      entry.2.length ≤ gap (octets entry.1).length ∧ later = []) ∧ PadsFit octets later

structure Laid {Item : Type} (octets : Item → Bytes) where
  entries : List (Item × Bytes)
  fit : PadsFit octets entries

namespace Laid
variable {Item : Type} {octets : Item → Bytes}

def items (laid : Laid octets) : List Item := laid.entries.map Prod.fst

def area (laid : Laid octets) : Bytes := lay octets laid.entries

/-- The last pad is whole as well. -/
def IsFull (laid : Laid octets) : Prop :=
  ∀ entry ∈ laid.entries, entry.2.length = gap (octets entry.1).length

end Laid

/-- A parameter or a cause without regard to its type. -/
structure Record where
  code : UInt16
  value : Bytes

namespace Record

def declared (record : Record) : UInt16 := UInt16.ofNat (record.value.length + 4)

def octets (record : Record) : Bytes := octets16 record.code ++ (octets16 record.declared ++ record.value)

def param (record : Record) : Param := ⟨record.code,record.declared,record.value⟩

def info? (record : Record) : Option Bytes := if record.code = 1 then some record.value else none

end Record

inductive Parameter
  | ipv4 (address : Ipv4)
  | ipv6 (address : Ipv6)
  | hostName (name : String) (free : '\x00' ∉ name.toList)
  | cookieLife (increment : UInt32)
  | supported (types : List UInt16)
  | stateCookie (cookie : Bytes)
  | unrecognized (params : Laid Record.octets)
  | other (code : UInt16) (value : Bytes) (unknown : code ∉ [5,6,7,8,9,11,12])

namespace Parameter

def record : Parameter → Record
  | ipv4 address => ⟨5,address.octets⟩
  | ipv6 address => ⟨6,address.octets⟩
  | hostName name _ => ⟨11,Text.Utf8.encode name⟩
  | cookieLife increment => ⟨9,octets32 increment⟩
  | supported types => ⟨12,types.flatMap octets16⟩
  | stateCookie cookie => ⟨7,cookie⟩
  | unrecognized params => ⟨8,params.area⟩
  | other code value _ => ⟨code,value⟩

def octets (parameter : Parameter) : Bytes := parameter.record.octets

def ipv4? : Parameter → Option Ipv4
  | ipv4 address => some address
  | _ => none

def ipv6? : Parameter → Option Ipv6
  | ipv6 address => some address
  | _ => none

def hostName? : Parameter → Option String
  | hostName name _ => some name
  | _ => none

def cookieLife? : Parameter → Option UInt32
  | cookieLife increment => some increment
  | _ => none

def supportedTypes : Parameter → List UInt16
  | supported types => types
  | _ => []

def stateCookie? : Parameter → Option Bytes
  | stateCookie cookie => some cookie
  | _ => none

def wrapped : Parameter → List Record
  | unrecognized params => params.items
  | _ => []

end Parameter

structure Opening where
  tag : UInt32
  window : UInt32
  outbound : UInt16
  inbound : UInt16
  tsn : UInt32
  params : Laid Parameter.octets

namespace Opening

def octets (opening : Opening) : Bytes :=
  octets32 opening.tag ++ (octets32 opening.window ++ (octets16 opening.outbound ++
    (octets16 opening.inbound ++ (octets32 opening.tsn ++ opening.params.area))))

def fields (opening : Opening) : InitFields :=
  ⟨opening.tag,opening.window,opening.outbound,opening.inbound,opening.tsn,opening.params.area⟩

def addresses (opening : Opening) : Addresses where
  ipv4 := opening.params.items.filterMap Parameter.ipv4?
  ipv6 := opening.params.items.filterMap Parameter.ipv6?
  hostNames := opening.params.items.filterMap Parameter.hostName?

/-- Of several life spans the last one counts. -/
def initParams (opening : Opening) : InitParams where
  addresses := opening.addresses
  cookieLife := (opening.params.items.filterMap Parameter.cookieLife?).getLast?.getD 0
  supported := opening.params.items.flatMap Parameter.supportedTypes

/-- Of several cookies the last one counts. -/
def initAckParams (opening : Opening) : InitAckParams where
  addresses := opening.addresses
  stateCookie := (opening.params.items.filterMap Parameter.stateCookie?).getLast?
  unrecognized := (opening.params.items.flatMap Parameter.wrapped).map Record.param

end Opening

def dataOctets (fields : DataFields) : Bytes :=
  octets32 fields.tsn ++ (octets16 fields.stream ++ (octets16 fields.sequence ++
    (octets32 fields.protocolId ++ fields.payload)))

def gapOctets (block : GapBlock) : Bytes := octets16 block.start ++ octets16 block.stop

inductive Body
  | data (fields : DataFields)
  | init (opening : Opening)
  | initAck (opening : Opening)
  | sack (cumulativeTsn window : UInt32) (gaps : List GapBlock) (dups : List UInt32)
  | heartbeat (params : Laid Record.octets)
  | heartbeatAck (params : Laid Record.octets)
  | abort (causes : Laid Record.octets)
  | shutdown (cumulativeTsn : UInt32)
  | shutdownAck
  | error (causes : Laid Record.octets)
  | cookieEcho (cookie : Bytes)
  | cookieAck
  | shutdownComplete
  | generic (typeCode : UInt8) (octets : Bytes)
    (free : typeCode = 12 ∨ typeCode = 13 ∨ 15 ≤ typeCode ∧ typeCode ≤ 63)

namespace Body

def typeCode : Body → UInt8
  | data _ => 0
  | init _ => 1
  | initAck _ => 2
  | sack _ _ _ _ => 3
  | heartbeat _ => 4
  | heartbeatAck _ => 5
  | abort _ => 6
  | shutdown _ => 7
  | shutdownAck => 8
  | error _ => 9
  | cookieEcho _ => 10
  | cookieAck => 11
  | shutdownComplete => 14
  | generic typeCode _ _ => typeCode

def octets : Body → Bytes
  | data fields => dataOctets fields
  | init opening | initAck opening => opening.octets
  | sack cumulativeTsn window gaps dups =>
    octets32 cumulativeTsn ++ (octets32 window ++ (octets16 (UInt16.ofNat gaps.length) ++
      (octets16 (UInt16.ofNat dups.length) ++ (gaps.flatMap gapOctets ++ dups.flatMap octets32))))
  | heartbeat records | heartbeatAck records | abort records | error records => records.area
  | shutdown cumulativeTsn => octets32 cumulativeTsn
  | cookieEcho cookie => cookie
  | shutdownAck | cookieAck | shutdownComplete => []
  | generic _ octets _ => octets

def kind : Body → ChunkKind
  | data _ => .data
  | init _ => .init
  | initAck _ => .initAck
  | sack _ _ _ _ => .sack
  | heartbeat _ => .heartbeat
  | heartbeatAck _ => .heartbeatAck
  | abort _ => .abort
  | shutdown _ => .shutdown
  | shutdownAck => .shutdownAck
  | error _ => .error
  | cookieEcho _ => .cookieEcho
  | cookieAck => .cookieAck
  | shutdownComplete => .shutdownComplete
  | generic _ _ _ => .generic

def records? : Body → Option (List Record)
  | init opening | initAck opening => some (opening.params.items.map Parameter.record)
  | heartbeat records | heartbeatAck records | abort records | error records => some records.items
  | _ => none

/-- The values that a chunk with this body shows once its parameters have been read. -/
def content : Body → Content
  | data fields => .data fields
  | init opening => .init opening.fields (some opening.initParams)
  | initAck opening => .initAck opening.fields (some opening.initAckParams)
  | sack cumulativeTsn window gaps dups =>
    .sack ⟨cumulativeTsn,window,UInt16.ofNat gaps.length,UInt16.ofNat dups.length,gaps,dups⟩
  | heartbeat params => .heartbeat (some (params.items.filterMap Record.info?).getLast?)
  | heartbeatAck params => .heartbeatAck (some (params.items.filterMap Record.info?).getLast?)
  | abort causes => .abort (some (causes.items.map Record.param))
  | shutdown cumulativeTsn => .shutdown cumulativeTsn
  | shutdownAck => .shutdownAck
  | error causes => .error (some (causes.items.map Record.param))
  | cookieEcho _ => .cookieEcho
  | cookieAck => .cookieAck
  | shutdownComplete => .shutdownComplete
  | generic _ _ _ => .generic

end Body

/-- A chunk whose length can be written in its head. -/
structure Chunk where
  action : UInt8
  flags : UInt8
  body : Body
  two_bits : action < 4
  fits : body.octets.length + 4 < 65536

namespace Chunk

def declared (chunk : Chunk) : UInt16 := UInt16.ofNat (chunk.body.octets.length + 4)

def octets (chunk : Chunk) : Bytes :=
  (chunk.action * 64 + chunk.body.typeCode) :: chunk.flags :: (octets16 chunk.declared ++ chunk.body.octets)

/-- The decoded chunk at a place has all the values of the chunk that was sent. -/
structure IsShown (place : Nat) (sent : Chunk) (chunk : Sctp.Chunk) : Prop where
  index : chunk.raw.index = place
  kind : chunk.kind = sent.body.kind
  typeCode : chunk.raw.typeCode = sent.body.typeCode
  action : chunk.raw.action = sent.action
  flags : chunk.raw.flags = sent.flags
  length : chunk.raw.length = sent.body.octets.length + 4
  body : chunk.raw.body = sent.body.octets
  params : chunk.params? = sent.body.records?.map (·.map Record.param)
  content : chunk.content = sent.body.content

end Chunk

structure Packet where
  header : Header
  chunks : Laid Chunk.octets

def Packet.octets (packet : Packet) : Bytes := packet.header.octets ++ packet.chunks.area

end Sctp.Sent
