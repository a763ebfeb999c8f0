import Sctp.Capture.PacketBlock
import Sctp.Padding

/-! Blocks of a capture file, and the outcome of reading one from the octets at hand: it is found, or so
many octets are missing, or it has a fault that no further octets can mend. -/
namespace Sctp.Capture

inductive Block
  /-- The link type of the frames that follow, by its number. -/
  | linkType (code : Int)
  | packet (packet : PacketBlock)
  /-- A block without influence on the packets. -/
  | other
  deriving DecidableEq

inductive BlockFault
  | malformed
  /-- The block is the header of a section, but shows no byte order. -/
  | unrecognized
  deriving DecidableEq, Repr

def BlockFault.text : BlockFault → String
  | malformed => "NomError"
  | unrecognized => "HeaderNotRecognized"

inductive Scan (α : Type)
  | found (value : α)
  | missing (count : Nat)
  | refused (fault : BlockFault)

namespace Scan

variable {α β : Type}

def andThen (scan : Scan α) (next : α → Scan β) : Scan β :=
  match scan with
  | found value => next value
  | missing count => missing count
  | refused fault => refused fault

def isFound : Scan α → Bool
  | found _ => true
  | _ => false

theorem found_of_andThen (scan : Scan α) (next : α → Scan β) (result : β)
    (read : scan.andThen next = found result) : ∃ value, scan = found value ∧ next value = found result := by
  cases scan with
  | found value => exact ⟨value,rfl,read⟩
  | missing _ => cases read
  | refused _ => cases read

def split (size : Nat) (octets : Bytes) : Scan (Bytes × Bytes) :=
  let front := octets.take size
  if front.length < size then missing (size - front.length) else found (front, octets.drop size)

theorem split_of_le (size : Nat) (octets : Bytes) (enough : size ≤ octets.length) :
    split size octets = found (octets.take size, octets.drop size) := by
  simp [split, Nat.min_eq_left enough]

theorem split_of_lt (size : Nat) (octets : Bytes) (few : octets.length < size) :
    split size octets = missing (size - octets.length) := by
  simp [split, Nat.min_eq_right (Nat.le_of_lt few), few]

theorem length_of_split (size : Nat) (octets front back : Bytes)
    (read : split size octets = found (front, back)) : front.length = size ∧ octets = front ++ back := by
  unfold split at read
  dsimp only at read
  by_cases few : (octets.take size).length < size
  · simp only [few, ↓reduceIte, reduceCtorEq] at read
  · simp only [few, ↓reduceIte, found.injEq, Prod.mk.injEq] at read
    obtain ⟨rfl,rfl⟩ := read
    refine ⟨?_,(List.take_append_drop size octets).symm⟩
    simp only [List.length_take] at few ⊢
    omega

/-- The first octets up to the length and its pad, and the others. A length so near the greatest of 32 bits
that its pad could reach beyond is refused. -/
def padded (length : Nat) (octets : Bytes) : Scan (Bytes × Bytes) :=
  if 4294967291 ≤ length then refused .malformed else split (align4 length) octets

theorem length_of_padded (length : Nat) (octets front back : Bytes)
    (read : padded length octets = found (front, back)) :
    front.length = align4 length ∧ octets = front ++ back := by
  unfold padded at read
  split at read
  · cases read
  · exact length_of_split _ _ _ _ read

end Scan

inductive ByteOrder
  | little
  | big
  deriving DecidableEq, Repr

def ByteOrder.word16 : ByteOrder → UInt8 → UInt8 → UInt16
  | little, a, b => Sctp.word16 b a
  | big, a, b => Sctp.word16 a b

def ByteOrder.word32 : ByteOrder → UInt8 → UInt8 → UInt8 → UInt8 → UInt32
  | little, a, b, c, d => Sctp.word32 d c b a
  | big, a, b, c, d => Sctp.word32 a b c d

inductive ReadError
  /-- The file ends inside a block. -/
  | unexpectedEof
  /-- A block does not fit in the buffer. -/
  | bufferTooSmall
  | refused (fault : BlockFault)
  deriving DecidableEq, Repr

def ReadError.text : ReadError → String
  | unexpectedEof => "UnexpectedEof"
  | bufferTooSmall => "BufferTooSmall"
  | refused fault => fault.text

inductive FormatError
  | headerNotRecognized
  /-- The file ends before the header does, by so many octets of the field that is cut. -/
  | incomplete (missing : Nat)
  /-- What has been opened cannot be read, being a directory. -/
  | unreadable
  deriving DecidableEq, Repr

def FormatError.text : FormatError → String
  | headerNotRecognized => "HeaderNotRecognized"
  | incomplete missing => s!"Incomplete({missing})"
  | unreadable => "ReadError"

def signed32 (word : UInt32) : Int :=
  if word.toNat < 2147483648 then word.toNat else (word.toNat : Int) - 4294967296

end Sctp.Capture
