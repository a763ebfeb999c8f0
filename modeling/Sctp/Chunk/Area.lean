import Sctp.Chunk.Raw

/-! The chunk area of a packet. `Area.walk` lists its chunks in order together with the way the walk
ended; `Area.Cursor` takes one chunk at a time. A pad that is missing after the last chunk is no fault. -/
namespace Sctp

/-- How the walk over a chunk area ended; offsets count from the start of the area. -/
inductive AreaStatus
  /-- Every octet belongs to a chunk. -/
  | complete
  /-- Fewer octets were left than a chunk head has. -/
  | trailing (offset length : Nat)
  /-- A chunk declared fewer octets than its own head, and the rest of the area was skipped. -/
  | badLength (offset : Nat) (declared : UInt16) (skipped : Nat)
  /-- The last chunk declared more octets than there are. -/
  | truncated (offset : Nat) (declared : UInt16) (available : Nat)
  deriving DecidableEq

namespace AreaStatus

def isComplete : AreaStatus → Bool
  | complete => true
  | _ => false

def uncovered : AreaStatus → Nat
  | complete => 0
  | trailing _ length => length
  | badLength _ _ skipped => skipped
  | truncated _ _ _ => 0

def text : AreaStatus → String
  | complete => "complete"
  | trailing offset length => s!"{length} trailing bytes at {offset}"
  | badLength offset declared skipped => s!"bad chunk length {declared.toNat} at {offset} ({skipped} bytes skipped)"
  | truncated offset declared available =>
    s!"chunk at {offset} declares {declared.toNat} bytes, {available} available"

end AreaStatus

namespace Area

def walkFrom (offset index : Nat) : Bytes → List RawChunk × AreaStatus
  | lead :: flags :: l₀ :: l₁ :: rest =>
    let declared := word16 l₀ l₁
    let body := rest.take (declared.toNat - 4)
    if declared.toNat < 4 then ([], .badLength offset declared (rest.length + 4))
    else if body.length < declared.toNat - 4 then
      ([⟨lead, flags, declared, body, index⟩], .truncated offset declared (rest.length + 4))
    else
      let later := walkFrom (offset + align4 declared.toNat) (index + 1) (rest.drop (align4 declared.toNat - 4))
      (⟨lead, flags, declared, body, index⟩ :: later.1, later.2)
  | [] => ([], .complete)
  | rest => ([], .trailing offset rest.length)
  termination_by area => area.length
  decreasing_by
    simp only [List.length_drop, List.length_cons]
    omega

def walk (area : Bytes) : List RawChunk × AreaStatus := walkFrom 0 0 area

/-- A position in a chunk area. The status reads `complete` until the step that ends the walk. -/
structure Cursor where
  rest : Bytes
  offset : Nat
  index : Nat
  status : AreaStatus
  ended : Bool
  deriving DecidableEq

namespace Cursor

def start (area : Bytes) : Cursor := ⟨area, 0, 0, .complete, false⟩

def finish (cursor : Cursor) (status : AreaStatus) : Cursor :=
  { cursor with rest := [], status := status, ended := true }

def next (cursor : Cursor) : Option RawChunk × Cursor :=
  if cursor.ended then (none, cursor)
  else match cursor.rest with
    | lead :: flags :: l₀ :: l₁ :: rest =>
      let declared := word16 l₀ l₁
      let body := rest.take (declared.toNat - 4)
      if declared.toNat < 4 then
        (none, cursor.finish (.badLength cursor.offset declared (rest.length + 4)))
      else if body.length < declared.toNat - 4 then
        (some ⟨lead, flags, declared, body, cursor.index⟩,
          { cursor with index := cursor.index + 1 }.finish
            (.truncated cursor.offset declared (rest.length + 4)))
      else
        (some ⟨lead, flags, declared, body, cursor.index⟩,
          { cursor with
            rest := rest.drop (align4 declared.toNat - 4)
            offset := cursor.offset + align4 declared.toNat
            index := cursor.index + 1 })
    | [] => (none, cursor.finish .complete)
    | rest => (none, cursor.finish (.trailing cursor.offset rest.length))

/-- The chunks that the cursor has still to yield, and the status it will end with. -/
def toWalk (cursor : Cursor) : List RawChunk × AreaStatus :=
  if cursor.ended then ([], cursor.status) else walkFrom cursor.offset cursor.index cursor.rest

end Cursor

end Area

end Sctp
