import Sctp.Frame.LinkType
import Sctp.Header
import Sctp.Text.Address

/-! The way from a captured frame down to its SCTP packet: the link header names the network layer, and
the network header the transport. Other traffic and IP fragments lead nowhere, which is no error; a
header that is cut short or contradicts itself is one. -/
namespace Sctp

structure Found where
  src : IpAddress
  dst : IpAddress
  payload : Bytes
  deriving DecidableEq

namespace Frame

def ipv4Type : UInt16 := 0x0800

def ipv6Type : UInt16 := 0x86DD

def isTag (etherType : UInt16) : Bool := [0x8100, 0x88A8, 0x9100].contains etherType

def skipTags (etherType : UInt16) (rest : Bytes) : Except HeaderError (UInt16 × Bytes) :=
  if isTag etherType then
    match rest with
    | _ :: _ :: a :: b :: inner => skipTags (word16 a b) inner
    | _ => .error (.tooShort .vlanTag)
  else .ok (etherType, rest)
  termination_by rest.length

/-- The payload type that an address family stands for; 0 is that of no payload. -/
def familyType? (family : UInt32) : Option UInt16 :=
  if family = 2 then some ipv4Type
  else if family = 10 ∨ family = 24 ∨ family = 28 ∨ family = 30 then some ipv6Type
  else none

/-- An address family is in the byte order of the host that captured it. -/
def nullType (a b c d : UInt8) : UInt16 :=
  match familyType? (word32 d c b a) with
  | some etherType => etherType
  | none => (familyType? (word32 a b c d)).getD 0

/-- The network layer that the link header announces, and the octets behind that header. -/
def network (link : LinkType) (frame : Bytes) : Except HeaderError (UInt16 × Bytes) :=
  match link with
  | .ethernet =>
    match frame.drop 12 with
    | a :: b :: rest => skipTags (word16 a b) rest
    | _ => .error (.tooShort .ethernet)
  | .cooked =>
    match frame.drop 14 with
    | a :: b :: rest => .ok (word16 a b, rest)
    | _ => .error (.tooShort .cooked)
  | .cookedV2 =>
    match frame.take 20 with
    | a :: b :: header => if header.length < 18 then .error (.tooShort .cookedV2) else .ok (word16 a b, frame.drop 20)
    | _ => .error (.tooShort .cookedV2)
  | .null =>
    match frame with
    | a :: b :: c :: d :: rest => .ok (nullType a b c d, rest)
    | _ => .error (.tooShort .null)
  | .rawIpv4 | .rawIpv6 =>
    match frame with
    | lead :: _ =>
      if lead / 16 = 4 then .ok (ipv4Type, frame)
      else if lead / 16 = 6 then .ok (ipv6Type, frame)
      else .error (.invalid .rawIpVersion)
    | [] => .error (.tooShort .rawIp)

def sctpProtocol : UInt8 := 132

structure Ipv4Header where
  lead : UInt8
  totalLength : UInt16
  fragmentation : UInt16
  protocol : UInt8
  src : Ipv4
  dst : Ipv4

namespace Ipv4Header

def read? : Bytes → Option (Ipv4Header × Bytes)
  | lead :: _ :: l₀ :: l₁ :: _ :: _ :: f₀ :: f₁ :: _ :: protocol :: _ :: _ ::
      s₀ :: s₁ :: s₂ :: s₃ :: d₀ :: d₁ :: d₂ :: d₃ :: rest =>
    some (⟨lead, word16 l₀ l₁, word16 f₀ f₁, protocol, ⟨[s₀, s₁, s₂, s₃], rfl⟩, ⟨[d₀, d₁, d₂, d₃], rfl⟩⟩, rest)
  | _ => none

def length (header : Ipv4Header) : Nat := (header.lead % 16).toNat * 4

def isValid (header : Ipv4Header) : Bool := header.lead / 16 == 4 && 20 ≤ header.length

/-- More fragments follow, or this one is not the first. -/
def isFragment (header : Ipv4Header) : Bool := header.fragmentation % 0x4000 != 0

end Ipv4Header

/-- A total length of zero comes from captures before segmentation; all that was captured counts then. -/
def throughIpv4 (packet : Bytes) : Except HeaderError (Option Found) :=
  match Ipv4Header.read? packet with
  | none => .error (.tooShort .ipv4)
  | some (header, rest) =>
    if !header.isValid then .error (.invalid .ipv4)
    else if (rest.take (header.length - 20)).length < header.length - 20 then .error (.tooShort .ipv4)
    else if header.isFragment || header.protocol != sctpProtocol then .ok none
    else
      let payload := rest.drop (header.length - 20)
      if header.totalLength = 0 then .ok (some ⟨.v4 header.src, .v4 header.dst, payload⟩)
      else if header.totalLength.toNat < header.length then .error (.insufficientLength .ipv4)
      else .ok (some ⟨.v4 header.src, .v4 header.dst, payload.take (header.totalLength.toNat - header.length)⟩)

/-- Hop-by-hop options, routing and destination options: headers that can be passed over. -/
def isExtension (next : UInt8) : Bool := next == 0 || next == 43 || next == 60

def skipExtensions (next : UInt8) (area : Bytes) : Except HeaderError (Option Bytes) :=
  if next = sctpProtocol then .ok (some area)
  else if isExtension next then
    match area with
    | following :: units :: rest =>
      let length := units.toNat * 8 + 6
      if (rest.take length).length < length then .error (.tooShort .ipv6Extension)
      else skipExtensions following (rest.drop length)
    | _ => .error (.tooShort .ipv6Extension)
  else .ok none
  termination_by area.length
  decreasing_by
    simp only [List.length_drop, List.length_cons]
    omega

/-- A payload length of zero leaves the payload unbounded. -/
def throughIpv6 (packet : Bytes) : Except HeaderError (Option Found) :=
  match packet with
  | lead :: _ :: _ :: _ :: l₀ :: l₁ :: next :: _ :: rest =>
    match Ipv6.ofPrefix? rest, Ipv6.ofPrefix? (rest.drop 16) with
    | some src, some dst =>
      if lead / 16 != 6 then .error (.invalid .ipv6)
      else
        let payload := rest.drop 32
        let length := (word16 l₀ l₁).toNat
        let area := if length = 0 then payload else payload.take length
        match skipExtensions next area with
        | .ok (some inner) => .ok (some ⟨.v6 src, .v6 dst, inner⟩)
        | .ok none => .ok none
        | .error fault => .error fault
    | _, _ => .error (.tooShort .ipv6)
  | _ => .error (.tooShort .ipv6)

def find? (link : LinkType) (frame : Bytes) : Except HeaderError (Option Found) :=
  match network link frame with
  | .error fault => .error fault
  | .ok (etherType, packet) =>
    if etherType = ipv4Type then throughIpv4 packet
    else if etherType = ipv6Type then throughIpv6 packet
    else .ok none

end Frame

end Sctp
