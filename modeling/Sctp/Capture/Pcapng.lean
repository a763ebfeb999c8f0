import Sctp.Capture.NameRecord

/-! The block format of capture files. A block states its type and its length before its content and the
length again behind it, in the byte order of its section; a section header sets that order anew by a
magic number. Packets, link types and section headers matter here; all other blocks are passed over once
they are seen to be whole. -/
namespace Sctp.Capture.Pcapng

inductive BlockType
  | section
  | interface
  | simple
  | nameResolution
  | statistics
  | enhanced
  | journal
  | secrets
  | custom
  | process
  | unknown
  deriving DecidableEq, Repr

namespace BlockType

def ofCode (code : UInt32) : BlockType :=
  if code = 0x0A0D0D0A then .section
  else if code = 1 then .interface
  else if code = 3 then .simple
  else if code = 4 then .nameResolution
  else if code = 5 then .statistics
  else if code = 6 then .enhanced
  else if code = 9 then .journal
  else if code = 10 then .secrets
  else if code = 0x0BAD ∨ code = 0x40000BAD then .custom
  else if code = 0x80000001 then .process
  else .unknown

/-- The least length of a block of the type. That of a process counts neither its number nor its trailer. -/
def minimum : BlockType → Nat
  | .section => 28
  | .interface => 20
  | .simple => 16
  | .nameResolution => 12
  | .statistics => 24
  | .enhanced => 32
  | .journal => 12
  | .secrets => 20
  | .custom => 16
  | .process => 8
  | .unknown => 12

/-- The length behind the content has to agree with the one before it. -/
def checksTrailer : BlockType → Bool
  | .interface | .enhanced | .nameResolution | .statistics | .secrets | .custom | .process => true
  | .section | .simple | .journal | .unknown => false

end BlockType

def sectionOrder? (a b c d : UInt8) : Option ByteOrder :=
  if word32 a b c d = 0x1A2B3C4D then some .big
  else if word32 d c b a = 0x1A2B3C4D then some .little
  else none

/-- A block taken apart: its type, its content, and the length stated before and behind that. -/
structure Envelope where
  type : BlockType
  order : ByteOrder
  content : Bytes
  length : UInt32
  trailer : UInt32

namespace Envelope

/-- Takes the block of the given type and order apart that the octets start with. The length of the content
is counted in 32 bits: where the stated one does not even cover the frame of the block, it is far beyond any
buffer. -/
def read (type : BlockType) (order : ByteOrder) (octets : Bytes) : Scan (Envelope × Bytes) :=
  (Scan.split type.minimum octets).andThen fun _ =>
    match octets with
    | _ :: _ :: _ :: _ :: l₀ :: l₁ :: l₂ :: l₃ :: rest =>
      let length := order.word32 l₀ l₁ l₂ l₃
      if length.toNat < type.minimum then .refused .malformed
      else
        (Scan.split (length - 12).toNat rest).andThen fun (content, rest) =>
          match rest with
          | t₀ :: t₁ :: t₂ :: t₃ :: after => .found (⟨type, order, content, length, order.word32 t₀ t₁ t₂ t₃⟩, after)
          | cut => .missing (4 - cut.length)
    | _ => .refused .malformed

/-- The trailing length is not checked for the type, or agrees. -/
def isClosed (envelope : Envelope) : Bool :=
  !envelope.type.checksTrailer || envelope.length == envelope.trailer

/-- What the content holds. The data of an enhanced packet include its pad; those of a simple packet are
all that follow the length on the wire. Name records, secrets and the number of a process have to be whole,
but count for nothing else. -/
def content? (envelope : Envelope) : Scan Block :=
  let order := envelope.order
  match envelope.type, envelope.content with
  | .interface, a :: b :: _ => .found (.linkType (order.word16 a b).toNat)
  | .simple, o₀ :: o₁ :: o₂ :: o₃ :: data => .found (.packet (.simple (order.word32 o₀ o₁ o₂ o₃) data))
  | .enhanced, _ :: _ :: _ :: _ :: h₀ :: h₁ :: h₂ :: h₃ :: l₀ :: l₁ :: l₂ :: l₃ ::
      c₀ :: c₁ :: c₂ :: c₃ :: o₀ :: o₁ :: o₂ :: o₃ :: rest =>
    let captured := order.word32 c₀ c₁ c₂ c₃
    (Scan.padded captured.toNat rest).andThen fun (data, _) =>
      .found (.packet (.enhanced (order.word32 h₀ h₁ h₂ h₃) (order.word32 l₀ l₁ l₂ l₃) captured
        (order.word32 o₀ o₁ o₂ o₃) data))
  | .nameResolution, records => (NameRecord.readAll order records).andThen fun _ => .found .other
  | .secrets, _ :: _ :: _ :: _ :: l₀ :: l₁ :: l₂ :: l₃ :: rest =>
    (Scan.padded (order.word32 l₀ l₁ l₂ l₃).toNat rest).andThen fun _ => .found .other
  | .process, rest => (Scan.split 4 rest).andThen fun _ => .found .other
  | _, _ => .found .other

def block? (envelope : Envelope) : Scan Block :=
  envelope.content?.andThen fun block => if envelope.isClosed then .found block else .refused .malformed

end Envelope

/-- The next block where the given byte order is in force, the order from there on, and what follows. -/
def block (order : ByteOrder) (octets : Bytes) : Scan (Block × ByteOrder × Bytes) :=
  match octets with
  | t₀ :: t₁ :: t₂ :: t₃ :: rest =>
    let type := BlockType.ofCode (order.word32 t₀ t₁ t₂ t₃)
    let read (order : ByteOrder) : Scan (Block × ByteOrder × Bytes) :=
      (Envelope.read type order octets).andThen fun (envelope, after) =>
        envelope.block?.andThen fun block => .found (block, order, after)
    if type = .section then
      match rest.drop 4 with
      | m₀ :: m₁ :: m₂ :: m₃ :: _ => (sectionOrder? m₀ m₁ m₂ m₃).elim (.refused .unrecognized) read
      | _ => .missing (12 - octets.length)
    else read order
  | cut => .missing (4 - cut.length)

/-- The octets that a block takes up: the twelve of its frame and, counted in 32 bits, those of its content. -/
def size (order : ByteOrder) : Bytes → Nat
  | _ :: _ :: _ :: _ :: l₀ :: l₁ :: l₂ :: l₃ :: _ => 12 + (order.word32 l₀ l₁ l₂ l₃ - 12).toNat
  | _ => 0

theorem length_of_envelope {type : BlockType} {order : ByteOrder} {octets after : Bytes} {envelope : Envelope}
    (read : Envelope.read type order octets = .found (envelope, after)) :
    12 ≤ size order octets ∧ size order octets + after.length = octets.length := by
  obtain ⟨front,-,opened⟩ := Scan.found_of_andThen _ _ _ read
  split at opened
  · dsimp only at opened
    split at opened
    · cases opened
    · obtain ⟨⟨content,rest⟩,apart,closed⟩ := Scan.found_of_andThen _ _ _ opened
      obtain ⟨inside,rfl⟩ := Scan.length_of_split _ _ _ _ apart
      dsimp only at closed
      split at closed
      · obtain ⟨-,rfl⟩ := Prod.mk.inj (Scan.found.inj closed)
        simp only [size, List.length_cons, List.length_append]
        omega
      · cases closed
  · cases opened

theorem length_of_block {order later : ByteOrder} {octets after : Bytes} {value : Block}
    (read : block order octets = .found (value, later, after)) :
    12 ≤ size later octets ∧ size later octets + after.length = octets.length := by
  unfold block at read
  split at read
  · rename_i t₀ t₁ t₂ t₃ rest
    have within (inner : ByteOrder)
        (read : ((Envelope.read (.ofCode (order.word32 t₀ t₁ t₂ t₃)) inner (t₀ :: t₁ :: t₂ :: t₃ :: rest)).andThen
          fun (envelope, after) => envelope.block?.andThen fun block => .found (block, inner, after))
          = .found (value, later, after)) : 12 ≤ size later (t₀ :: t₁ :: t₂ :: t₃ :: rest) ∧
            size later (t₀ :: t₁ :: t₂ :: t₃ :: rest) + after.length = (t₀ :: t₁ :: t₂ :: t₃ :: rest).length := by
      obtain ⟨⟨envelope,left⟩,apart,read⟩ := Scan.found_of_andThen _ _ _ read
      obtain ⟨block,-,read⟩ := Scan.found_of_andThen _ _ _ read
      simp only [Scan.found.injEq, Prod.mk.injEq] at read
      rw [← read.2.1, ← read.2.2]
      exact length_of_envelope apart
    dsimp only at read
    split at read
    · split at read
      · rename_i m₀ m₁ m₂ m₃ _ _
        cases known : sectionOrder? m₀ m₁ m₂ m₃ with
        | none => simp only [known, Option.elim_none, reduceCtorEq] at read
        | some inner =>
          simp only [known, Option.elim_some] at read
          exact within inner read
      · cases read
    · exact within order read
  · cases read

end Sctp.Capture.Pcapng
