import Sctp.Capture.Framing
import Sctp.Capture.Reader

/-! A reader of captures that reads a file out of memory, as much at a time as there is room for in its buffer. -/
namespace Sctp.Capture

/-- The format of a capture, with what the form of the next block depends on. -/
inductive Decoder
  | pcap (layout : Pcap.Layout)
  | pcapng (order : ByteOrder)
  deriving DecidableEq

namespace Decoder

def block (decoder : Decoder) (octets : Bytes) : Scan (Block × Decoder × Bytes) :=
  match decoder with
  | pcap layout =>
    (Pcap.record layout octets).andThen fun (packet, rest) => .found (.packet packet, pcap layout, rest)
  | pcapng order =>
    (Pcapng.block order octets).andThen fun (block, order, rest) => .found (block, pcapng order, rest)

def least : Decoder → Nat
  | pcap layout => 16 + layout.surplus
  | pcapng _ => 4

theorem block_nil (decoder : Decoder) : decoder.block [] = .missing decoder.least := by
  cases decoder <;> rfl

/-- The octets of the block at the front, as they are stated in the form that it was read in. -/
def size : Decoder → Bytes → Nat
  | pcap layout => Pcap.size layout
  | pcapng order => Pcapng.size order

/-- What a block of either format is read as. -/
inductive Finds (octets after : Bytes) : Decoder → Block → Decoder → Prop
  | record (layout : Pcap.Layout) (packet : PacketBlock) (read : Pcap.record layout octets = .found (packet,after)) :
    Finds octets after (pcap layout) (.packet packet) (pcap layout)
  | block (order later : ByteOrder) (value : Block) (read : Pcapng.block order octets = .found (value,later,after)) :
    Finds octets after (pcapng order) value (pcapng later)

section Found
variable {decoder later : Decoder} {octets after : Bytes} {value : Block}
  (read : decoder.block octets = .found (value,later,after))
include read

theorem finds : Finds octets after decoder value later := by
  cases decoder with
  | pcap layout =>
    obtain ⟨⟨packet,rest⟩,found,same⟩ := Scan.found_of_andThen _ _ _ read
    simp only [Scan.found.injEq,Prod.mk.injEq] at same
    obtain ⟨rfl,rfl,rfl⟩ := same
    exact .record _ _ found
  | pcapng order =>
    obtain ⟨⟨block,order,rest⟩,found,same⟩ := Scan.found_of_andThen _ _ _ read
    simp only [Scan.found.injEq,Prod.mk.injEq] at same
    obtain ⟨rfl,rfl,rfl⟩ := same
    exact .block _ _ _ found

theorem length_of_block : 12 ≤ later.size octets ∧ later.size octets + after.length = octets.length := by
  cases finds read with
  | record layout packet found =>
    obtain ⟨least,whole⟩ := Pcap.length_of_record found
    exact ⟨Nat.le_trans (by decide) least,whole⟩
  | block order later value found => exact Pcapng.length_of_block found

theorem exists_delimits : ∃ piece, octets = piece ++ after ∧ Delimits decoder.block piece fun more =>
    (value,later,more) := by
  cases finds read with
  | record layout packet found =>
    obtain ⟨piece,rfl,delimits⟩ := Pcap.delimits_record found
    exact ⟨piece,rfl,delimits.andThen fun _ => rfl⟩
  | block order later value found =>
    obtain ⟨piece,rfl,delimits⟩ := Pcapng.delimits_block found
    exact ⟨piece,rfl,delimits.andThen fun _ => rfl⟩

theorem delimits_block : ∃ piece, 12 ≤ piece.length ∧ octets = piece ++ after ∧
    Delimits decoder.block piece fun more => (value,later,more) := by
  obtain ⟨least,whole⟩ := length_of_block read
  obtain ⟨piece,rfl,delimits⟩ := exists_delimits read
  rw [List.length_append] at whole
  exact ⟨piece,by omega,rfl,delimits⟩

end Found

def grammar : Grammar where
  Form := Decoder
  records := pcap
  sections := pcapng .little
  block := block
  least := least
  block_records _ _ := rfl
  block_nil := block_nil
  delimits := delimits_block

end Decoder

structure Stream where
  decoder : Decoder
  window : Window
  deriving DecidableEq

namespace Stream

def next (stream : Stream) : Next Stream :=
  if stream.window.buffered.isEmpty && stream.window.ended then .eof
  else match stream.decoder.block stream.window.buffered with
    | .found (block, decoder, _) =>
      .block (decoder.size stream.window.buffered) block { stream with decoder := decoder }
    | .refused fault => .failed (.refused fault)
    | .missing count =>
      if stream.window.ended then .failed .unexpectedEof
      else if capacity ≤ stream.window.buffered.length + count then .failed .bufferTooSmall
      else .incomplete

def consume (size : Nat) (stream : Stream) : Stream :=
  { stream with window := { stream.window with buffered := stream.window.buffered.drop size } }

/-- Fills the buffer up; a read into a full buffer says nothing about the end of the file. -/
def refill (stream : Stream) : Stream :=
  let space := capacity - stream.window.buffered.length
  if space = 0 then stream
  else
    { stream with
      window :=
        { buffered := stream.window.buffered ++ stream.window.unread.take space
          unread := stream.window.unread.drop space
          ended := stream.window.unread.isEmpty } }

section Answers
variable {stream : Stream}

/-- There is no block at the front of no octets. -/
theorem isEmpty_of_scanned (scanned : ∀ count, stream.decoder.block stream.window.buffered ≠ .missing count) :
    stream.window.buffered.isEmpty = false := by
  rw [List.isEmpty_eq_false_iff]
  intro nothing
  rw [nothing,Decoder.block_nil] at scanned
  exact scanned _ rfl

theorem next_of_found {value : Block} {later : Decoder} {rest : Bytes}
    (found : stream.decoder.block stream.window.buffered = .found (value,later,rest)) :
    ∃ size read, stream.next = .block size value read ∧ (consume size read).decoder = later ∧
      (consume size read).window = { stream.window with buffered := rest } := by
  have some_octet := isEmpty_of_scanned fun count => by
    rw [found]
    nofun
  refine ⟨later.size stream.window.buffered,{ stream with decoder := later },?_,rfl,?_⟩
  · rw [next,some_octet,found]
    rfl
  · have whole := (Decoder.length_of_block found).2
    obtain ⟨piece,front,-⟩ := Decoder.exists_delimits found
    have size : later.size stream.window.buffered = piece.length := by
      rw [front,List.length_append] at whole
      rw [front]
      exact Nat.add_right_cancel whole
    rw [consume,size,front,List.drop_left]

theorem next_of_refused {fault : BlockFault}
    (refused : stream.decoder.block stream.window.buffered = .refused fault) :
    stream.next = .failed (.refused fault) := by
  have some_octet := isEmpty_of_scanned fun count => by
    rw [refused]
    nofun
  rw [next,some_octet,refused]
  rfl

theorem next_of_missing {count : Nat} (missing : stream.decoder.block stream.window.buffered = .missing count)
    (unspent : (stream.window.buffered.isEmpty && stream.window.ended) = false) :
    stream.next =
      if stream.window.ended then .failed .unexpectedEof
      else if capacity ≤ stream.window.buffered.length + count then .failed .bufferTooSmall
      else .incomplete := by
  rw [next,unspent,missing]
  rfl

theorem fills_refill (going : stream.window.ended = false) (room : stream.window.buffered.length < capacity) :
    stream.window.Fills stream.refill.window := by
  obtain ⟨decoder,⟨buffered,unread,ended⟩⟩ := stream
  obtain rfl : ended = false := going
  change buffered.length < capacity at room
  have space : capacity - buffered.length ≠ 0 := by omega
  rw [refill]
  dsimp only
  rw [if_neg space]
  cases unread with
  | nil =>
    rw [List.take_nil,List.drop_nil,List.append_nil]
    exact .nothing buffered
  | cons octet unread =>
    have apart := List.take_append_drop (capacity - buffered.length) (octet :: unread)
    conv => arg 1; rw [← apart]
    refine .portion _ _ _ ?_ ?_
    · rw [List.ne_nil_iff_length_pos,List.length_take,List.length_cons]
      omega
    · rw [List.length_take]
      omega

end Answers

def reader : Reader where
  toGrammar := Decoder.grammar
  State := Stream
  form := decoder
  window := window
  start := Stream.mk
  next := next
  consume := consume
  refill := refill
  form_start _ _ := rfl
  window_start _ _ := rfl
  eof nothing ended := by
    rw [next,nothing,ended]
    rfl
  found := next_of_found
  refused := next_of_refused
  unexpectedEof some_octet ended missing := by
    rw [next_of_missing missing (by rw [List.isEmpty_eq_false_iff.mpr some_octet,Bool.false_and])]
    exact if_pos ended
  bufferTooSmall going missing large := by
    rw [next_of_missing missing (by rw [going,Bool.and_false]),going]
    exact if_pos large
  incomplete going missing room := by
    rw [next_of_missing missing (by rw [going,Bool.and_false]),going]
    exact if_neg (Nat.not_le.mpr room)
  form_refill stream := by
    unfold refill
    dsimp only
    split <;> rfl
  fills := fills_refill

end Stream

end Sctp.Capture
