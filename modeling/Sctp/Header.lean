import Sctp.Bytes
import Sctp.Text.Radix

/-! The common header of a packet, and what can be wrong with the headers on the way to a packet. -/
namespace Sctp

inductive HeaderName
  | sctp
  | ethernet
  | vlanTag
  | cooked
  | cookedV2
  | null
  | ipv4
  | ipv6
  | ipv6Extension
  | rawIp
  | rawIpVersion
  deriving DecidableEq, Repr

def HeaderName.text : HeaderName → String
  | sctp => "SctpHeader"
  | ethernet => "EtherHeader"
  | vlanTag => "VlanTag"
  | cooked => "SllHeader"
  | cookedV2 => "Sllv2Header"
  | null => "NullHeader"
  | ipv4 => "Ipv4Header"
  | ipv6 => "Ipv6Header"
  | ipv6Extension => "Ipv6ExtHeader"
  | rawIp => "raw IP"
  | rawIpVersion => "raw IP version"

inductive HeaderError
  | tooShort (header : HeaderName)
  /-- A field holds a value that the header cannot have. -/
  | invalid (header : HeaderName)
  /-- The header states a total length that does not cover the header itself. -/
  | insufficientLength (header : HeaderName)
  deriving DecidableEq, Repr

def HeaderError.message : HeaderError → String
  | tooShort header => s!"buffer too short for {header.text}"
  | invalid header => s!"invalid {header.text}"
  | insufficientLength header => s!"insufficient buffer length for {header.text}"

structure Header where
  srcPort : UInt16
  dstPort : UInt16
  tag : UInt32
  checksum : UInt32
  deriving DecidableEq

namespace Header

def size : Nat := 12

def read? : Bytes → Option (Header × Bytes)
  | s₀ :: s₁ :: d₀ :: d₁ :: t₀ :: t₁ :: t₂ :: t₃ :: c₀ :: c₁ :: c₂ :: c₃ :: area =>
    some (⟨word16 s₀ s₁, word16 d₀ d₁, word32 t₀ t₁ t₂ t₃, word32 c₀ c₁ c₂ c₃⟩, area)
  | _ => none

def addressing (header : Header) : Bytes :=
  octets16 header.srcPort ++ octets16 header.dstPort ++ octets32 header.tag

def octets (header : Header) : Bytes := header.addressing ++ octets32 header.checksum

theorem read?_octets (header : Header) (area : Bytes) :
    read? (header.octets ++ area) = some (header, area) := by
  simp only [octets, addressing, octets16, octets32, List.cons_append, List.nil_append, read?,
    word16_octets16, word32_octets32]

theorem octets_of_read? (packet : Bytes) (header : Header) (area : Bytes)
    (found : read? packet = some (header, area)) : header.octets ++ area = packet := by
  unfold read? at found
  split at found
  · obtain ⟨rfl,rfl⟩ := Prod.mk.inj (Option.some.inj found)
    simp only [octets, addressing, octets16_word16, octets32_word32, List.cons_append, List.nil_append]
  · cases found

def text (header : Header) : String :=
  s!"SCTP {header.srcPort.toNat} -> {header.dstPort.toNat} vtag=0x{Text.hexWide 8 header.tag.toNat}"

end Header

end Sctp
