import Sctp.Bytes
import Sctp.Chunk.Raw

/-! The fixed fields of DATA, INIT, INIT ACK, SACK and SHUTDOWN bodies. A body that is too short for the
fixed fields of its type has none. -/
namespace Sctp

structure DataFields where
  tsn : UInt32
  stream : UInt16
  sequence : UInt16
  protocolId : UInt32
  payload : Bytes
  deriving DecidableEq

def DataFields.ofBody? : Bytes → Option DataFields
  | t₀ :: t₁ :: t₂ :: t₃ :: s₀ :: s₁ :: n₀ :: n₁ :: p₀ :: p₁ :: p₂ :: p₃ :: payload =>
    some ⟨word32 t₀ t₁ t₂ t₃, word16 s₀ s₁, word16 n₀ n₁, word32 p₀ p₁ p₂ p₃, payload⟩
  | _ => none

/-- The place of a DATA chunk in its user message, by the begin and end bits. -/
inductive Fragment
  | whole
  | first
  | middle
  | last
  deriving DecidableEq

namespace Fragment

def ofBits : (begins ends : Bool) → Fragment
  | true, true => whole
  | true, false => first
  | false, false => middle
  | false, true => last

def text : Fragment → String
  | whole => "whole"
  | first => "first"
  | middle => "middle"
  | last => "last"

end Fragment

namespace RawChunk

def ends (raw : RawChunk) : Bool := raw.hasFlag 1

def begins (raw : RawChunk) : Bool := raw.hasFlag 2

def isUnordered (raw : RawChunk) : Bool := raw.hasFlag 4

def isImmediate (raw : RawChunk) : Bool := raw.hasFlag 8

/-- The verification tag of the packet is the one that the receiver chose for its peer. -/
def hasReflectedTag (raw : RawChunk) : Bool := raw.hasFlag 1

def fragment (raw : RawChunk) : Fragment := .ofBits raw.begins raw.ends

end RawChunk

def DataFields.text (fields : DataFields) (raw : RawChunk) : String :=
  s!"data tsn={fields.tsn.toNat} sid={fields.stream.toNat} ssn={fields.sequence.toNat} ppid={fields.protocolId.toNat}"
    ++ s!" {raw.fragment.text} payload={fields.payload.length}"
    ++ (if raw.isUnordered then " unordered" else "")
    ++ (if raw.isImmediate then " immediate" else "")

/-- The body of an INIT or INIT ACK chunk: its fixed fields, and the area of its parameters. -/
structure InitFields where
  tag : UInt32
  window : UInt32
  outbound : UInt16
  inbound : UInt16
  tsn : UInt32
  params : Bytes
  deriving DecidableEq

def InitFields.ofBody? : Bytes → Option InitFields
  | t₀ :: t₁ :: t₂ :: t₃ :: w₀ :: w₁ :: w₂ :: w₃ :: o₀ :: o₁ :: i₀ :: i₁ :: n₀ :: n₁ :: n₂ :: n₃ :: params =>
    some ⟨word32 t₀ t₁ t₂ t₃, word32 w₀ w₁ w₂ w₃, word16 o₀ o₁, word16 i₀ i₁, word32 n₀ n₁ n₂ n₃, params⟩
  | _ => none

def InitFields.text (fields : InitFields) : String :=
  s!"tag=0x{Text.hexWide 8 fields.tag.toNat} a_rwnd={fields.window.toNat}"
    ++ s!" streams={fields.outbound.toNat}/{fields.inbound.toNat} tsn={fields.tsn.toNat}"

/-- A stretch of received packets, relative to the cumulative acknowledgement. -/
structure GapBlock where
  start : UInt16
  stop : UInt16
  deriving DecidableEq

/-- The body of a SACK chunk. Both lists hold the entries that the counts announce and the body really
has; the duplicates start behind the announced gap blocks, whether those are all there or not. -/
structure SackFields where
  cumulativeTsn : UInt32
  window : UInt32
  gapCount : UInt16
  dupCount : UInt16
  gaps : List GapBlock
  dups : List UInt32
  deriving DecidableEq

def gapBlocks : Bytes → List GapBlock
  | s₀ :: s₁ :: e₀ :: e₁ :: rest => ⟨word16 s₀ s₁, word16 e₀ e₁⟩ :: gapBlocks rest
  | _ => []

def words32 : Bytes → List UInt32
  | a :: b :: c :: d :: rest => word32 a b c d :: words32 rest
  | _ => []

namespace SackFields

def ofBody? : Bytes → Option SackFields
  | t₀ :: t₁ :: t₂ :: t₃ :: w₀ :: w₁ :: w₂ :: w₃ :: g₀ :: g₁ :: d₀ :: d₁ :: rest =>
    let gapCount := word16 g₀ g₁
    let dupCount := word16 d₀ d₁
    some
      { cumulativeTsn := word32 t₀ t₁ t₂ t₃
        window := word32 w₀ w₁ w₂ w₃
        gapCount := gapCount
        dupCount := dupCount
        gaps := (gapBlocks rest).take gapCount.toNat
        dups := (words32 (rest.drop (4 * gapCount.toNat))).take dupCount.toNat }
  | _ => none

def gapStart (fields : SackFields) (i : Nat) : UInt16 := (fields.gaps[i]?.map GapBlock.start).getD 0

def gapStop (fields : SackFields) (i : Nat) : UInt16 := (fields.gaps[i]?.map GapBlock.stop).getD 0

def dup (fields : SackFields) (i : Nat) : UInt32 := fields.dups[i]?.getD 0

def gapsText (fields : SackFields) : String :=
  if fields.gaps.isEmpty then ""
  else " gaps=" ++ ",".intercalate (fields.gaps.map fun gap => s!"{gap.start.toNat}-{gap.stop.toNat}")

def dupsText (fields : SackFields) : String :=
  if fields.dups.isEmpty then "" else s!" dups={fields.dups.length}"

def text (fields : SackFields) : String :=
  s!"sack cum_tsn={fields.cumulativeTsn.toNat} a_rwnd={fields.window.toNat}"
    ++ fields.gapsText ++ fields.dupsText

end SackFields

def shutdownTsn? : Bytes → Option UInt32
  | t₀ :: t₁ :: t₂ :: t₃ :: _ => some (word32 t₀ t₁ t₂ t₃)
  | _ => none

end Sctp
