import Sctp.Chunk

/-! Counters over the packets of a capture. A tally holds a number for every counter; `get` is its view,
and `get_bump` and `get_add` say what the two operations do to it. -/
namespace Sctp.Report

inductive Counter
  | packets
  | octets
  /-- Frames that carried SCTP and passed the port filter. -/
  | sctp
  /-- Other traffic, and IP fragments. -/
  | notSctp
  | filtered
  | tooShort
  | invalid
  | insufficientLength
  /-- SCTP packets shorter than the common header. -/
  | sctpTooShort
  | badChecksum
  | trailing
  | badLength
  | truncated
  | chunks (kind : ChunkKind)
  deriving DecidableEq, Repr

namespace Counter

def index : Counter → Fin 27
  | packets => 0
  | octets => 1
  | sctp => 2
  | notSctp => 3
  | filtered => 4
  | tooShort => 5
  | invalid => 6
  | insufficientLength => 7
  | sctpTooShort => 8
  | badChecksum => 9
  | trailing => 10
  | badLength => 11
  | truncated => 12
  | chunks .data => 13
  | chunks .init => 14
  | chunks .initAck => 15
  | chunks .sack => 16
  | chunks .heartbeat => 17
  | chunks .heartbeatAck => 18
  | chunks .abort => 19
  | chunks .shutdown => 20
  | chunks .shutdownAck => 21
  | chunks .error => 22
  | chunks .cookieEcho => 23
  | chunks .cookieAck => 24
  | chunks .shutdownComplete => 25
  | chunks .generic => 26

def all : List Counter :=
  [packets, octets, sctp, notSctp, filtered, tooShort, invalid, insufficientLength, sctpTooShort, badChecksum,
    trailing, badLength, truncated] ++ ChunkKind.all.map chunks

theorem mem_all (counter : Counter) : counter ∈ all := by
  cases counter with
  | chunks kind => cases kind <;> decide
  | _ => decide

theorem all_index (counter : Counter) : all[counter.index.val]? = some counter := by
  cases counter with
  | chunks kind => cases kind <;> rfl
  | _ => rfl

theorem index_injective (left right : Counter) (same : left.index = right.index) : left = right := by
  have found := all_index left
  rw [same, all_index right] at found
  exact (Option.some.inj found).symm

end Counter

structure Tally where
  counts : Vector Nat 27
  deriving DecidableEq

namespace Tally

def zero : Tally := ⟨Vector.replicate 27 0⟩

def get (tally : Tally) (counter : Counter) : Nat := tally.counts[counter.index]

def bump (tally : Tally) (counter : Counter) (amount : Nat) : Tally :=
  ⟨tally.counts.set counter.index (tally.get counter + amount) counter.index.isLt⟩

def add (left right : Tally) : Tally := ⟨Vector.zipWith (· + ·) left.counts right.counts⟩

theorem get_zero (counter : Counter) : zero.get counter = 0 := by
  simp [get, zero]

theorem get_bump (tally : Tally) (counter other : Counter) (amount : Nat) :
    (tally.bump counter amount).get other = tally.get other + if counter = other then amount else 0 := by
  by_cases same : counter = other
  · subst same
    simp [get, bump]
  · have apart : counter.index.val ≠ other.index.val := fun equal =>
      same (Counter.index_injective _ _ (Fin.ext equal))
    simp [get, bump, same, apart]

theorem get_add (left right : Tally) (counter : Counter) :
    (left.add right).get counter = left.get counter + right.get counter := by
  simp [get, add]

theorem ext_get (left right : Tally) (agree : ∀ counter, left.get counter = right.get counter) :
    left = right := by
  obtain ⟨left⟩ := left
  obtain ⟨right⟩ := right
  congr 1
  apply Vector.ext
  intro i inside
  have listed : i < Counter.all.length := inside
  have place : Counter.all[i].index.val = i := by
    have table : ∀ j : Fin 27, (Counter.all[j.val]?.map fun counter => counter.index.val) = some j.val := by decide
    have found := table ⟨i,inside⟩
    simpa [List.getElem?_eq_getElem listed] using found
  have same := agree Counter.all[i]
  simpa [get, place] using same

def headerErrors (tally : Tally) : Nat :=
  tally.get .tooShort + tally.get .invalid + tally.get .insufficientLength

def chunks (tally : Tally) : Nat :=
  ChunkKind.all.foldr (fun kind total => tally.get (.chunks kind) + total) 0

end Tally

end Sctp.Report
