import Sctp.Capture.Block

/-! Records of a name-resolution block: a 16-bit type, the 16-bit length of the value, and the value with
its pad. The records follow one another up to four zero octets where the next one would start. -/
namespace Sctp.Capture

structure NameRecord where
  type : UInt16
  length : UInt16
  /-- The value with its pad. -/
  value : Bytes
  deriving DecidableEq

namespace NameRecord

def read (order : ByteOrder) (octets : Bytes) : Scan (NameRecord × Bytes) :=
  match octets with
  | t₀ :: t₁ :: l₀ :: l₁ :: rest =>
    (Scan.padded (order.word16 l₀ l₁).toNat rest).andThen fun (value, rest) =>
      .found (⟨order.word16 t₀ t₁, order.word16 l₀ l₁, value⟩, rest)
  | [_] => .missing 1
  | cut => .missing (4 - cut.length)

theorem length_of_read (order : ByteOrder) (octets : Bytes) (record : NameRecord) (after : Bytes)
    (found : read order octets = .found (record, after)) : after.length < octets.length := by
  unfold read at found
  split at found
  · obtain ⟨⟨value,rest⟩,apart,found⟩ := Scan.found_of_andThen _ _ _ found
    obtain ⟨-,rfl⟩ := Prod.mk.inj (Scan.found.inj found)
    have whole := (Scan.length_of_padded _ _ _ _ apart).2
    subst whole
    simp only [List.length_cons, List.length_append]
    omega
  · cases found
  · cases found

/-- The records before the four zero octets, and what follows these. Fewer octets, all of them zero, may
still become the four. -/
def readAll (order : ByteOrder) (octets : Bytes) : Scan (List NameRecord × Bytes) :=
  if (octets.take 4).all (· == 0) then
    (Scan.split 4 octets).andThen fun (_, after) => .found ([], after)
  else
    match _ : read order octets with
    | .found (record, rest) =>
      (readAll order rest).andThen fun (records, after) => .found (record :: records, after)
    | .missing count => .missing count
    | .refused fault => .refused fault
  termination_by octets.length
  decreasing_by exact length_of_read _ _ _ _ (by assumption)

end NameRecord

end Sctp.Capture
