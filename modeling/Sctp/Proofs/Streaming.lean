import Sctp.Capture.Framing
import Sctp.Capture.Recording

/-! Captures that are made of blocks and nothing else. A block is in the buffer as a whole, or the buffer is
filled up and asked again; either way what is in the buffer and what is still to be read are together the
octets behind the last block (`Window.Holds`). So each block is read once and in its place, by every reader and
wherever the buffer ends (`Reader.read_of_accepts`), and a capture that is written in either format is read as what
was written (`Recording.ofFile_of_written`). -/
namespace Sctp.Capture

namespace Grammar
variable {grammar : Grammar}

theorem delimits_piece {form later : grammar.Form} {piece : Bytes} {value : Block}
    (found : grammar.block form piece = .found (value,later,[])) :
    Delimits (grammar.block form) piece fun more => (value,later,more) := by
  obtain ⟨piece',-,same,delimits⟩ := grammar.delimits found
  obtain rfl : piece = piece' := same.trans (List.append_nil _)
  exact delimits

theorem least_records (layout : Pcap.Layout) : grammar.least (grammar.records layout) = 16 + layout.surplus := by
  have asked := grammar.block_nil (grammar.records layout)
  rw [grammar.block_records] at asked
  exact (Scan.missing.inj asked).symm

end Grammar

/-- Blocks that are found one behind another, each of them less than the buffer holds. -/
inductive Accepts (grammar : Grammar) : grammar.Form → Bytes → List Block → Prop
  | nothing (form : grammar.Form) (fits : grammar.least form < capacity) : Accepts grammar form [] []
  | block (form later : grammar.Form) (piece rest : Bytes) (value : Block) (values : List Block)
    (found : grammar.block form piece = .found (value,later,[])) (fits : piece.length < capacity)
    (others : Accepts grammar later rest values) : Accepts grammar form (piece ++ rest) (value :: values)

namespace Reader
variable {reader : Reader} {state : reader.State}

theorem fills_of_refill {later : reader.State} (stepped : reader.step state = .refill later) :
    reader.form later = reader.form state ∧ (reader.window state).Fills (reader.window later) := by
  have reached := reader.reaches state
  rw [stepped] at reached
  cases reached with
  | refill count missing going room fills => exact ⟨reader.form_refill state,fills⟩

section Block
variable {later : reader.Form} {piece rest : Bytes} {value : Block}
  (found : reader.block (reader.form state) piece = .found (value,later,[]))
  (holds : (reader.window state).Holds (piece ++ rest))
include found holds

theorem step_of_whole (whole : piece.length ≤ (reader.window state).buffered.length) :
    ∃ after, reader.step state = .yield value after ∧ reader.form after = later ∧
      (reader.window after).Holds rest := by
  obtain ⟨more,front⟩ := exists_inner holds.there.symm whole
  have there := (Grammar.delimits_piece found).whole more
  rw [← front] at there
  obtain ⟨after,stepped,form,window⟩ := step_of_found there
  refine ⟨after,stepped,form,?_⟩
  rw [window]
  exact holds.behind front

theorem step_of_part (fits : piece.length < capacity)
    (part : (reader.window state).buffered.length < piece.length) :
    reader.step state = .refill (reader.refill state) := by
  have going : (reader.window state).ended = false := by
    rw [Bool.eq_false_iff]
    intro ended
    rw [holds.all_of_ended ended,List.length_append] at part
    omega
  have cut : (reader.window state).buffered = piece.take (reader.window state).buffered.length := by
    rw [← List.take_append_of_le_length (Nat.le_of_lt part),← holds.there]
    exact List.take_left.symm
  obtain ⟨count,missing,few⟩ := (Grammar.delimits_piece found).part _ part
  rw [← cut] at missing
  exact step_of_incomplete missing going (by omega)

/-- A block that is in the buffer as a whole is read, and otherwise the buffer is filled up. -/
theorem step_of_block (fits : piece.length < capacity) :
    (∃ after, reader.step state = .yield value after ∧ reader.form after = later ∧
        (reader.window after).Holds rest) ∨
      reader.step state = .refill (reader.refill state) := by
  by_cases whole : piece.length ≤ (reader.window state).buffered.length
  · exact .inl (step_of_whole found holds whole)
  · exact .inr (step_of_part found holds fits (Nat.not_le.mp whole))

end Block

theorem step_of_nothing (holds : (reader.window state).Holds [])
    (fits : reader.least (reader.form state) < capacity) :
    reader.step state = .stop (.ok ()) ∨ reader.step state = .refill (reader.refill state) := by
  have empty : (reader.window state).buffered = [] := (List.append_eq_nil_iff.mp holds.there).1
  cases ended : (reader.window state).ended with
  | true => exact .inl (step_of_eof empty ended)
  | false =>
    have missing : reader.block (reader.form state) (reader.window state).buffered =
        .missing (reader.least (reader.form state)) := by
      rw [empty,reader.block_nil]
    refine .inr (step_of_incomplete missing ended ?_)
    rw [empty,List.length_nil,Nat.zero_add]
    exact fits

/-- What a step does where the window holds blocks that are accepted. -/
inductive Advances (state : reader.State) : Bytes → List Block → Step reader.State → Prop
  | yield (after : reader.State) (octets rest : Bytes) (value : Block) (values : List Block)
    (others : Accepts reader.toGrammar (reader.form after) rest values) (holds : (reader.window after).Holds rest) :
    Advances state octets (value :: values) (.yield value after)
  | refill (octets : Bytes) (values : List Block) : Advances state octets values (.refill (reader.refill state))
  | stop : Advances state [] [] (.stop (.ok ()))

theorem advances {octets : Bytes} {values : List Block}
    (accepts : Accepts reader.toGrammar (reader.form state) octets values)
    (holds : (reader.window state).Holds octets) : Advances state octets values (reader.step state) := by
  generalize formed : reader.form state = form at accepts
  cases accepts with
  | nothing form fits =>
    obtain stepped | stepped := step_of_nothing holds (formed ▸ fits)
    · rw [stepped]
      exact .stop
    · rw [stepped]
      exact .refill _ _
  | block form later piece rest value values found fits others =>
    obtain ⟨after,stepped,rfl,holds'⟩ | stepped := step_of_block (formed ▸ found) holds fits
    · rw [stepped]
      exact .yield _ _ _ _ _ others holds'
    · rw [stepped]
      exact .refill _ _

/-- Each block is read once and in its place, and the reading ends behind the last one. -/
theorem read_of_accepts (state : reader.State) {octets : Bytes} {values : List Block}
    (accepts : Accepts reader.toGrammar (reader.form state) octets values)
    (holds : (reader.window state).Holds octets) : reader.read state = (values,.ok ()) := by
  fun_induction Reader.read reader state generalizing octets values with
  | case1 state block later stepped behind =>
    have advanced := advances accepts holds
    rw [stepped] at advanced
    cases advanced with
    | yield after octets rest value values others holds' =>
      rename_i ih
      have read : behind = (values,.ok ()) := ih others holds'
      rw [read]
  | case2 state later stepped ih =>
    obtain ⟨form,fills⟩ := fills_of_refill stepped
    exact ih (form ▸ accepts) (holds.fills fills)
  | case3 state ending stepped =>
    have advanced := advances accepts holds
    rw [stepped] at advanced
    cases advanced
    rfl

end Reader

/-- A word as it is written in a file of the byte order. -/
def ByteOrder.octets32 (order : ByteOrder) (word : UInt32) : Bytes :=
  match order with
  | little => (Sctp.octets32 word).reverse
  | big => Sctp.octets32 word

theorem ByteOrder.exists_octets32 (order : ByteOrder) (word : UInt32) :
    ∃ a b c d, order.octets32 word = [a,b,c,d] ∧ order.word32 a b c d = word := by
  cases order <;> exact ⟨_,_,_,_,rfl,word32_octets32 word⟩

theorem ByteOrder.length_octets32 (order : ByteOrder) (word : UInt32) : (order.octets32 word).length = 4 := by
  cases order <;> rfl

namespace Pcap

/-- A record of a packet with all of its captured octets. -/
structure Record where
  seconds : UInt32
  fraction : UInt32
  wire : UInt32
  data : Bytes
  fits : 16 + data.length < capacity

namespace Record

def captured (record : Record) : UInt32 := UInt32.ofNat record.data.length

def octets (order : ByteOrder) (record : Record) : Bytes :=
  order.octets32 record.seconds ++ (order.octets32 record.fraction ++
    (order.octets32 record.captured ++ (order.octets32 record.wire ++ record.data)))

def block (record : Record) : PacketBlock :=
  .record record.seconds record.fraction record.captured record.wire record.data

theorem toNat_captured (record : Record) : record.captured.toNat = record.data.length := by
  have fits := record.fits
  rw [captured,UInt32.toNat_ofNat']
  exact Nat.mod_eq_of_lt (Nat.lt_trans (by omega) (show capacity < 2 ^ 32 by decide))

/-- The four words of a record head. -/
def head (order : ByteOrder) (record : Record) : Bytes :=
  order.octets32 record.seconds ++ (order.octets32 record.fraction ++
    (order.octets32 record.captured ++ order.octets32 record.wire))

theorem record_head (layout : Layout) (record : Record) (surplus : Bytes)
    (size : surplus.length = layout.surplus) :
    Pcap.record layout (record.head layout.order ++ (surplus ++ record.data)) = .found (record.block,[]) := by
  obtain ⟨s₀,s₁,s₂,s₃,seconds,same_seconds⟩ := layout.order.exists_octets32 record.seconds
  obtain ⟨f₀,f₁,f₂,f₃,fraction,same_fraction⟩ := layout.order.exists_octets32 record.fraction
  obtain ⟨c₀,c₁,c₂,c₃,captured,same_captured⟩ := layout.order.exists_octets32 record.captured
  obtain ⟨o₀,o₁,o₂,o₃,wire,same_wire⟩ := layout.order.exists_octets32 record.wire
  have behind : Scan.split layout.surplus (surplus ++ record.data) = .found (surplus,record.data) := by
    rw [← size,Scan.split_of_le _ _ (by rw [List.length_append]; omega),List.take_left,List.drop_left]
  have whole : Scan.split record.data.length record.data = .found (record.data,[]) := by
    rw [Scan.split_of_le _ _ (Nat.le_refl _),List.take_length,List.drop_length]
  rw [head,seconds,fraction,captured,wire]
  change behindHead layout (layout.order.word32 s₀ s₁ s₂ s₃) (layout.order.word32 f₀ f₁ f₂ f₃)
    (layout.order.word32 c₀ c₁ c₂ c₃) (layout.order.word32 o₀ o₁ o₂ o₃) (surplus ++ record.data) = _
  rw [same_seconds,same_fraction,same_captured,same_wire,behindHead,behind]
  change (Scan.split record.captured.toNat record.data).andThen _ = _
  rw [toNat_captured,whole]
  rfl

theorem length_head (order : ByteOrder) (record : Record) : (record.head order).length = 16 := by
  cases order <;> rfl

theorem octets_eq (order : ByteOrder) (record : Record) : record.octets order = record.head order ++ record.data := by
  simp only [octets,head,List.append_assoc]

theorem record_octets (order : ByteOrder) (record : Record) :
    Pcap.record ⟨order,0⟩ (record.octets order) = .found (record.block,[]) := by
  rw [octets_eq]
  exact record_head ⟨order,0⟩ record [] rfl

theorem length_octets (order : ByteOrder) (record : Record) :
    (record.octets order).length = 16 + record.data.length := by
  rw [octets_eq,List.length_append,length_head]

theorem accepts (grammar : Grammar) (order : ByteOrder) (records : List Record) :
    Accepts grammar (grammar.records ⟨order,0⟩) (records.flatMap (octets order)) (records.map (.packet ·.block)) := by
  induction records with
  | nil =>
    refine .nothing _ ?_
    rw [Grammar.least_records]
    exact show 16 < capacity by decide
  | cons record records ih =>
    refine .block _ _ _ _ _ _ ?_ ?_ ih
    · rw [grammar.block_records,record_octets]
      rfl
    · rw [length_octets]
      exact record.fits

end Record

/-- The two words that tell micro- from nanoseconds head a file of records with nothing more than the usual head. -/
theorem exists_layout (order : ByteOrder) {magic : UInt32} (known : magic = 0xA1B2C3D4 ∨ magic = 0xA1B23C4D) :
    ∃ a b c d, order.octets32 magic = [a,b,c,d] ∧ layout? a b c d = some ⟨order,0⟩ := by
  obtain rfl | rfl := known <;> cases order <;> exact ⟨_,_,_,_,rfl,by decide⟩

theorem length_words (order : ByteOrder) (magic network : UInt32) {details : Bytes} (sixteen : details.length = 16) :
    (order.octets32 magic ++ (details ++ order.octets32 network)).length = 24 := by
  rw [List.length_append,List.length_append,order.length_octets32,order.length_octets32,sixteen]

theorem header_words (layout : Layout) {magic : UInt32} {details : Bytes} (network : UInt32)
    (known : ∃ a b c d, layout.order.octets32 magic = [a,b,c,d] ∧ layout? a b c d = some layout)
    (sixteen : details.length = 16) (rest : Bytes) :
    header (layout.order.octets32 magic ++ (details ++ layout.order.octets32 network) ++ rest) =
      .ok (layout,signed32 network,rest) := by
  obtain ⟨a,b,c,d,magic,known⟩ := known
  obtain ⟨n₀,n₁,n₂,n₃,network,same⟩ := layout.order.exists_octets32 network
  rw [magic,network,List.append_assoc,List.append_assoc]
  simp only [header,List.cons_append,List.nil_append,known,List.drop_left' sixteen,same]

/-- No file is headed in both formats. -/
theorem not_startsSection (grammar : Grammar) {octets : Bytes} {found : Layout × Int × Bytes}
    (headed : header octets = .ok found) : grammar.startsSection octets = false := by
  rw [Grammar.startsSection,Bool.and_eq_false_iff]
  left
  rw [beq_eq_false_iff_ne]
  intro first
  match octets with
  | [] | [_] | [_,_] | [_,_,_] => cases first
  | a :: b :: c :: d :: rest =>
    obtain ⟨rfl,rfl,rfl,rfl⟩ : a = 0x0A ∧ b = 0x0D ∧ c = 0x0D ∧ d = 0x0A := by simpa using first
    have unknown : layout? 0x0A 0x0D 0x0D 0x0A = none := by decide
    simp only [header,unknown] at headed
    cases headed

/-- A file header, whose first word tells micro- from nanoseconds, and records. -/
structure File where
  magic : UInt32
  known : magic = 0xA1B2C3D4 ∨ magic = 0xA1B23C4D
  /-- The version of the format, the time zone and the greatest length of a packet. -/
  details : Bytes
  sixteen : details.length = 16
  network : UInt32
  records : List Record

namespace File

def octets (order : ByteOrder) (file : File) : Bytes :=
  order.octets32 file.magic ++ (file.details ++ (order.octets32 file.network ++
    file.records.flatMap (Record.octets order)))

/-- The header with the link type, and the records. -/
def blocks (file : File) : List Block :=
  .linkType (signed32 file.network) :: file.records.map (.packet ·.block)

/-- The header alone, which tells the layout of the records and the link type. -/
def front (order : ByteOrder) (file : File) : Bytes :=
  order.octets32 file.magic ++ (file.details ++ order.octets32 file.network)

theorem octets_eq (order : ByteOrder) (file : File) :
    file.octets order = file.front order ++ file.records.flatMap (Record.octets order) := by
  simp only [octets,front,List.append_assoc]

theorem length_front (order : ByteOrder) (file : File) : (file.front order).length = 24 :=
  length_words order file.magic file.network file.sixteen

theorem header_front (order : ByteOrder) (file : File) (rest : Bytes) :
    header (file.front order ++ rest) = .ok (⟨order,0⟩,signed32 file.network,rest) :=
  header_words ⟨order,0⟩ file.network (exists_layout order file.known) file.sixteen rest

end File

end Pcap

namespace Recording

section Header
variable (reader : Reader) {front : Bytes} {layout : Pcap.Layout} {network : Int} (size : front.length = 24)
  (headed : ∀ rest, Pcap.header (front ++ rest) = .ok (layout,network,rest))
include size headed

/-- Behind a file header the reading starts with the octets that fill the first buffer up. -/
theorem ofFile_header (rest : Bytes) :
    ofFile reader (front ++ rest) =
      let read := reader.read (reader.start (reader.records layout)
        ⟨rest.take (capacity - 24),rest.drop (capacity - 24),false⟩)
      .ok ⟨false,.linkType network :: read.1,read.2⟩ := by
  have first : (front ++ rest).take capacity = front ++ rest.take (capacity - 24) := by
    rw [List.take_append,size,List.take_of_length_le]
    rw [size]
    decide
  have behind : (front ++ rest).drop capacity = rest.drop (capacity - 24) := by
    rw [List.drop_append,size,List.drop_of_length_le,List.nil_append]
    rw [size]
    decide
  have going : (front ++ rest).isEmpty = false := by
    rw [List.isEmpty_eq_false_iff]
    intro empty
    have none_there := congrArg List.length empty
    rw [List.length_append,size,List.length_nil] at none_there
    omega
  simp only [ofFile,Window.ofFile,first,behind,going,Pcap.not_startsSection reader.toGrammar (headed _),headed]
  rfl

/-- What is behind a file header is all there for the reader. -/
theorem exists_read_header (rest : Bytes) :
    ∃ start, reader.form start = reader.records layout ∧ (reader.window start).Holds rest ∧
      ofFile reader (front ++ rest) =
        .ok ⟨false,.linkType network :: (reader.read start).1,(reader.read start).2⟩ := by
  refine ⟨_,reader.form_start _ _,?_,ofFile_header reader size headed rest⟩
  rw [reader.window_start]
  exact ⟨List.take_append_drop (capacity - 24) _,nofun⟩

end Header

theorem ofFile_pcap (reader : Reader) (order : ByteOrder) (file : Pcap.File) :
    ofFile reader (file.octets order) = .ok ⟨false,file.blocks,.ok ()⟩ := by
  obtain ⟨start,form,holds,read⟩ :=
    exists_read_header reader (file.length_front order) (file.header_front order)
      (file.records.flatMap (Pcap.Record.octets order))
  have accepts := Pcap.Record.accepts reader.toGrammar order file.records
  rw [← form] at accepts
  rw [file.octets_eq,read,Reader.read_of_accepts start accepts holds]
  rfl

end Recording

end Sctp.Capture
