import Sctp.Capture.Block

/-! The older capture format: a file header of 24 octets, whose first four tell the byte order and the
form of the record heads, and records of a head and the captured octets. -/
namespace Sctp.Capture.Pcap

structure Layout where
  order : ByteOrder
  /-- Octets that a record head has behind the usual sixteen. -/
  surplus : Nat
  deriving DecidableEq, Repr

/-- The layout that the first four octets stand for: records in micro- or nanoseconds in either byte
order, or records with longer heads in little-endian order. -/
def layout? (a b c d : UInt8) : Option Layout :=
  let little := word32 d c b a
  let big := word32 a b c d
  if little = 0xA1B2C3D4 ∨ little = 0xA1B23C4D then some ⟨.little, 0⟩
  else if little = 0xA1B2CD34 then some ⟨.little, 8⟩
  else if big = 0xA1B2C3D4 ∨ big = 0xA1B23C4D then some ⟨.big, 0⟩
  else none

/-- The octets of the file header at which one of its fields ends. -/
def fieldEnds : List Nat := [4, 6, 8, 12, 16, 20, 24]

/-- How many octets a header of so many octets lacks of the field it is cut in. -/
def lacking (length : Nat) : Nat := ((fieldEnds.find? (length < ·)).getD length) - length

def header : Bytes → Except FormatError (Layout × Int × Bytes)
  | a :: b :: c :: d :: rest =>
    match layout? a b c d with
    | none => .error .headerNotRecognized
    | some layout =>
      match rest.drop 16 with
      | n₀ :: n₁ :: n₂ :: n₃ :: records => .ok (layout, signed32 (layout.order.word32 n₀ n₁ n₂ n₃), records)
      | _ => .error (.incomplete (lacking (rest.length + 4)))
  | cut => .error (.incomplete (4 - cut.length))

def record (layout : Layout) : Bytes → Scan (PacketBlock × Bytes)
  | s₀ :: s₁ :: s₂ :: s₃ :: f₀ :: f₁ :: f₂ :: f₃ :: c₀ :: c₁ :: c₂ :: c₃ :: o₀ :: o₁ :: o₂ :: o₃ :: rest =>
    let captured := layout.order.word32 c₀ c₁ c₂ c₃
    (Scan.split layout.surplus rest).andThen fun (_, rest) =>
      (Scan.split captured.toNat rest).andThen fun (data, rest) =>
        .found (.record (layout.order.word32 s₀ s₁ s₂ s₃) (layout.order.word32 f₀ f₁ f₂ f₃) captured
          (layout.order.word32 o₀ o₁ o₂ o₃) data, rest)
  | cut => .missing (16 + layout.surplus - cut.length)

/-- The octets that a record takes up, as its head states it. -/
def size (layout : Layout) : Bytes → Nat
  | _ :: _ :: _ :: _ :: _ :: _ :: _ :: _ :: c₀ :: c₁ :: c₂ :: c₃ :: _ =>
    16 + layout.surplus + (layout.order.word32 c₀ c₁ c₂ c₃).toNat
  | _ => 0

theorem length_of_record {layout : Layout} {octets : Bytes} {packet : PacketBlock} {after : Bytes}
    (read : record layout octets = .found (packet, after)) :
    16 ≤ size layout octets ∧ size layout octets + after.length = octets.length := by
  unfold record at read
  dsimp only at read
  split at read
  · obtain ⟨⟨skipped,rest⟩,first,read⟩ := Scan.found_of_andThen _ _ _ read
    obtain ⟨⟨data,later⟩,second,read⟩ := Scan.found_of_andThen _ _ _ read
    obtain ⟨-,rfl⟩ := Prod.mk.inj (Scan.found.inj read)
    obtain ⟨surplus,rfl⟩ := Scan.length_of_split _ _ _ _ first
    obtain ⟨captured,rfl⟩ := Scan.length_of_split _ _ _ _ second
    simp only [size, List.length_cons, List.length_append]
    omega
  · cases read

end Sctp.Capture.Pcap
