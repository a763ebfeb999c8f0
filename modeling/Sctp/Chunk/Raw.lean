import Sctp.Bytes
import Sctp.Padding
import Sctp.Code.Registry

/-! What all chunks share: a head of four octets that holds action, type, flags and length, the body
behind it, and the place of the chunk in its packet. -/
namespace Sctp

structure RawChunk where
  /-- The first octet: two bits of action above six of type. -/
  lead : UInt8
  flags : UInt8
  declared : UInt16
  /-- The octets behind the head, as far as the length reaches and the area holds them. -/
  body : Bytes
  index : Nat
  deriving DecidableEq

namespace RawChunk

def typeCode (raw : RawChunk) : UInt8 := raw.lead % 64

/-- What a receiver that does not know the type is to do. -/
def action (raw : RawChunk) : UInt8 := raw.lead / 64

/-- The declared length, head included and pad left out. -/
def length (raw : RawChunk) : Nat := raw.declared.toNat

def wireLength (raw : RawChunk) : Nat := align4 raw.length

def isTruncated (raw : RawChunk) : Bool := raw.body.length < raw.length - 4

def hasFlag (raw : RawChunk) (weight : UInt8) : Bool := raw.flags &&& weight != 0

def typeText (raw : RawChunk) : String := chunkTypes.text raw.typeCode.toNat

def headline (raw : RawChunk) : String := s!"{raw.typeText} len={raw.length}"

def text (raw : RawChunk) : String :=
  if raw.flags = 0 then raw.headline else raw.headline ++ " flags=0x" ++ Text.hexWide 2 raw.flags.toNat

end RawChunk

end Sctp
