import Sctp.Bytes
import Sctp.Code.Registry

/-! The link layers under which frames are captured. A capture states its link type as a number;
`LinkType.guess` stands in where that number is missing or means nothing here, and goes by the first
octets of a frame. -/
namespace Sctp

inductive LinkType
  | ethernet
  | cooked
  | cookedV2
  | null
  | rawIpv4
  | rawIpv6
  deriving DecidableEq, Repr

namespace LinkType

def all : List LinkType := [ethernet, cooked, cookedV2, null, rawIpv4, rawIpv6]

def name : LinkType → String
  | ethernet => "Ethernet"
  | cooked => "Sll"
  | cookedV2 => "Sllv2"
  | null => "Null"
  | rawIpv4 => "RawIpv4"
  | rawIpv6 => "RawIpv6"

def ofName? (name : String) : Option LinkType := all.find? fun link => link.name == name

def ofCode? (code : Int) : Option LinkType :=
  if code = 0 ∨ code = 108 then some null
  else if code = 1 then some ethernet
  else if code = 12 ∨ code = 101 ∨ code = 228 then some rawIpv4
  else if code = 229 then some rawIpv6
  else if code = 113 then some cooked
  else if code = 276 then some cookedV2
  else none

/-- The families that a loopback header can hold: one for IPv4, and one for IPv6 per family of systems. -/
def isFamily (family : UInt32) : Bool := [2, 10, 24, 28, 30].contains family

/-- Payloads that a cooked header is taken for one by. -/
def isCookedProtocol (etherType : UInt16) : Bool := [0x0800, 0x86DD, 0x0806, 0x8100].contains etherType

def looksRawIpv4 : Bytes → Bool
  | lead :: _ => lead / 16 == 4 && 5 ≤ lead % 16
  | [] => false

def looksRawIpv6 : Bytes → Bool
  | lead :: _ => lead / 16 == 6
  | [] => false

def looksNull : Bytes → Bool
  | a :: b :: c :: d :: lead :: _ =>
    (isFamily (word32 a b c d) || isFamily (word32 d c b a)) && (lead / 16 == 4 || lead / 16 == 6)
  | _ => false

def looksEthernet (frame : Bytes) : Bool :=
  match frame.drop 12 with
  | a :: b :: _ => etherTypes.isKnown (word16 a b).toNat
  | _ => false

/-- A packet type of at most 4 starts the frame, and a likely payload type ends the header. -/
def looksCooked (frame : Bytes) : Bool :=
  match frame.take 2, frame.drop 14 with
  | [a, b], p :: q :: _ => word16 a b ≤ 4 && isCookedProtocol (word16 p q)
  | _, _ => false

/-- A likely payload type starts the frame, and the packet type of the header is at most 4. -/
def looksCookedV2 (frame : Bytes) : Bool :=
  match frame.take 2, (frame.take 20).drop 10 with
  | [p, q], [kind, _, _, _, _, _, _, _, _, _] => kind ≤ 4 && isCookedProtocol (word16 p q)
  | _, _ => false

/-- The first link type in this order that the frame looks like, and Ethernet for want of another. -/
def guess (frame : Bytes) : LinkType :=
  if looksRawIpv4 frame then rawIpv4
  else if looksRawIpv6 frame then rawIpv6
  else if looksNull frame then null
  else if looksEthernet frame then ethernet
  else if looksCooked frame then cooked
  else if looksCookedV2 frame then cookedV2
  else ethernet

end LinkType

end Sctp
