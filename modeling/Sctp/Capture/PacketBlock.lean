import Sctp.Bytes
import Sctp.Text.Utc

/-! Captured packets in the three kinds of block that carry them, and the instants they were captured
at. Instants count nanoseconds from the start of 1970 in words of 64 bits, which do not hold all that a
block can tell (`PacketBlock.overflows`). -/
namespace Sctp.Capture

/-- What a build of the program does where a result has no place in its word: it gives the run up, or goes
on with the low bits. -/
inductive Arithmetic
  | checked
  | wrapping
  deriving DecidableEq, Repr

structure Timestamp where
  nanoseconds : UInt64
  deriving DecidableEq

namespace Timestamp

def text (time : Timestamp) : String := Text.Utc.render time.nanoseconds.toNat

def plain (time : Timestamp) : String :=
  let nanoseconds := time.nanoseconds.toNat
  s!"{nanoseconds / 1000000000}.{Text.decimalWide 9 (nanoseconds % 1000000000)}"

def ofMicros (seconds fraction : UInt32) : Timestamp :=
  ⟨seconds.toUInt64 * 1000000000 + fraction.toUInt64 * 1000⟩

/-- The count that two halves make. -/
def count (high low : UInt32) : UInt64 := high.toUInt64 <<< 32 ||| low.toUInt64

/-- Whether a count in an unstated unit is one of nanoseconds: those are taken for it that fall between the
years 1973 and 2096 then. -/
def isNanos (count : UInt64) : Bool :=
  100000000 ≤ count / 1000000000 && count / 1000000000 ≤ 4000000000

/-- All counts that are not of nanoseconds are taken for microseconds. -/
def ofCount (count : UInt64) : Timestamp := if isNanos count then ⟨count⟩ else ⟨count * 1000⟩

theorem toNat_ofMicros (seconds fraction : UInt32) :
    (ofMicros seconds fraction).nanoseconds.toNat = seconds.toNat * 1000000000 + fraction.toNat * 1000 := by
  have upto := seconds.toNat_lt
  have upto' := fraction.toNat_lt
  simp only [ofMicros,UInt64.toNat_add,UInt64.toNat_mul,UInt32.toNat_toUInt64,UInt64.reduceToNat]
  omega

theorem toNat_count (high low : UInt32) : (count high low).toNat = high.toNat * 4294967296 + low.toNat := by
  have above := high.toNat_lt
  have below := low.toNat_lt
  have shifted : (high.toUInt64 <<< 32).toNat = high.toNat <<< 32 := by
    simp only [UInt64.toNat_shiftLeft,UInt32.toNat_toUInt64,Nat.shiftLeft_eq,UInt64.reduceToNat,Nat.reduceMod,
      Nat.reducePow]
    omega
  rw [count,UInt64.toNat_or,shifted,UInt32.toNat_toUInt64,← Nat.shiftLeft_add_eq_or_of_lt below,Nat.shiftLeft_eq]

theorem isNanos_iff (count : UInt64) :
    isNanos count = true ↔ 100000000 ≤ count.toNat / 1000000000 ∧ count.toNat / 1000000000 ≤ 4000000000 := by
  simp only [isNanos,Bool.and_eq_true,decide_eq_true_eq,UInt64.le_iff_toNat_le,UInt64.toNat_div,UInt64.reduceToNat]

end Timestamp

/-- A block with the octets of a captured frame, which may have been longer on the wire. -/
inductive PacketBlock
  | record (seconds fraction captured wire : UInt32) (data : Bytes)
  | enhanced (high low captured wire : UInt32) (data : Bytes)
  | simple (wire : UInt32) (data : Bytes)
  deriving DecidableEq

namespace PacketBlock

def data : PacketBlock → Bytes
  | record _ _ _ _ data => data
  | enhanced _ _ _ _ data => data
  | simple _ data => data

/-- A simple block has no timestamp and counts from zero. -/
def time : PacketBlock → Timestamp
  | record seconds fraction _ _ _ => .ofMicros seconds fraction
  | enhanced high low _ _ _ => .ofCount (Timestamp.count high low)
  | simple _ _ => ⟨0⟩

/-- The nanoseconds that the block tells, whether or not a word has place for them. -/
def nanoseconds : PacketBlock → Nat
  | record seconds fraction _ _ _ => seconds.toNat * 1000000000 + fraction.toNat * 1000
  | enhanced high low _ _ _ =>
    let count := Timestamp.count high low
    if Timestamp.isNanos count then count.toNat else count.toNat * 1000
  | simple _ _ => 0

/-- To work the time out leads beyond 64 bits. -/
def overflows (block : PacketBlock) : Bool := 18446744073709551616 ≤ block.nanoseconds

/-- The stated number of captured octets; a simple block states only the length on the wire, and its data are
counted in 32 bits. -/
def capturedLength : PacketBlock → Nat
  | record _ _ captured _ _ => captured.toNat
  | enhanced _ _ captured _ _ => captured.toNat
  | simple wire data => (min wire (.ofNat data.length)).toNat

/-- The time keeps the low bits of what the block tells. -/
theorem toNat_time (block : PacketBlock) :
    block.time.nanoseconds.toNat = block.nanoseconds % 18446744073709551616 := by
  cases block with
  | simple wire data => rfl
  | record seconds fraction captured wire data =>
    have upto := seconds.toNat_lt
    have upto' := fraction.toNat_lt
    rw [time,nanoseconds,Timestamp.toNat_ofMicros]
    omega
  | enhanced high low captured wire data =>
    have upto := (Timestamp.count high low).toNat_lt
    rw [time,nanoseconds,Timestamp.ofCount]
    split
    · exact (Nat.mod_eq_of_lt upto).symm
    · simp only [UInt64.toNat_mul,UInt64.reduceToNat,Nat.reducePow]

theorem overflows_iff (block : PacketBlock) : block.overflows = true ↔ 18446744073709551616 ≤ block.nanoseconds :=
  decide_eq_true_iff

/-- The last count of microseconds that a word has place for, and the next one. -/
example : (enhanced 0x418937 0x4BC6A7EF 0 0 []).overflows = false ∧
    (enhanced 0x418937 0x4BC6A7F0 0 0 []).overflows = true := by decide

/-- Where nothing overflows the time is what the block tells. -/
theorem toNat_time_of_fits {block : PacketBlock} (fits : block.overflows = false) :
    block.time.nanoseconds.toNat = block.nanoseconds := by
  have small : ¬ 18446744073709551616 ≤ block.nanoseconds := by
    rw [← overflows_iff,fits]
    exact Bool.false_ne_true
  rw [toNat_time]
  exact Nat.mod_eq_of_lt (Nat.not_le.mp small)

/-- Only enhanced blocks tell times that have no place in a word. -/
theorem overflows_record (seconds fraction captured wire : UInt32) (data : Bytes) :
    (record seconds fraction captured wire data).overflows = false := by
  have upto := seconds.toNat_lt
  have upto' := fraction.toNat_lt
  rw [Bool.eq_false_iff,ne_eq,overflows_iff,nanoseconds]
  omega

end PacketBlock

end Sctp.Capture
