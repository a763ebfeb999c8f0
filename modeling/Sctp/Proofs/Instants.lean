import Sctp.Proofs.CutCapture
import Sctp.Proofs.Turns

/-! Captures of the older format and the instants of their packets. The packets that are read are the records that
stand behind the file header, with their words (`Reader.exists_stands`). Each record tells a second and a fraction of
it, and the first word of the file tells whether fractions are in micro- or nanoseconds; but the reader takes them for
microseconds in either case. The main statement is `Outcome.ofNode_times`. -/
namespace Sctp.Capture

theorem ByteOrder.octets32_word32 (order : ByteOrder) (a b c d : UInt8) :
    order.octets32 (order.word32 a b c d) = [a,b,c,d] := by
  cases order with
  | little => exact congrArg List.reverse (Sctp.octets32_word32 d c b a)
  | big => exact Sctp.octets32_word32 a b c d

namespace Pcap

/-- What a fraction of a second counts. -/
inductive Precision
  | micro
  | nano
  deriving DecidableEq

namespace Precision

/-- The first word of a file with fractions of the precision. -/
def magic : Precision → UInt32
  | micro => 0xA1B2C3D4
  | nano => 0xA1B23C4D

/-- The nanoseconds in the least fraction. -/
def unit : Precision → Nat
  | micro => 1000
  | nano => 1

theorem known (precision : Precision) : precision.magic = 0xA1B2C3D4 ∨ precision.magic = 0xA1B23C4D := by
  cases precision with
  | micro => exact .inl rfl
  | nano => exact .inr rfl

/-- The instant that a second and a fraction stand for, in nanoseconds. -/
def instant (precision : Precision) (seconds fraction : UInt32) : Nat :=
  seconds.toNat * 1000000000 + fraction.toNat * precision.unit

end Precision

/-- The header of a file of the precision. -/
structure Heading where
  order : ByteOrder
  precision : Precision
  /-- The version of the format, the time zone and the greatest length of a packet. -/
  details : Bytes
  sixteen : details.length = 16
  network : UInt32

namespace Heading
variable (heading : Heading)

def layout : Layout := ⟨heading.order,0⟩

def octets : Bytes :=
  heading.order.octets32 heading.precision.magic ++ (heading.details ++ heading.order.octets32 heading.network)

theorem length_octets : heading.octets.length = 24 :=
  length_words heading.order heading.precision.magic heading.network heading.sixteen

theorem header_octets (rest : Bytes) :
    header (heading.octets ++ rest) = .ok (heading.layout,signed32 heading.network,rest) :=
  header_words heading.layout heading.network (exists_layout heading.order heading.precision.known) heading.sixteen rest

end Heading

/-- A packet as a record tells it. -/
structure Stamped where
  seconds : UInt32
  fraction : UInt32
  captured : UInt32
  wire : UInt32
  data : Bytes
  all : data.length = captured.toNat

namespace Stamped

def block (packet : Stamped) : PacketBlock :=
  .record packet.seconds packet.fraction packet.captured packet.wire packet.data

def head (order : ByteOrder) (packet : Stamped) : Bytes :=
  order.octets32 packet.seconds ++ (order.octets32 packet.fraction ++
    (order.octets32 packet.captured ++ order.octets32 packet.wire))

/-- The fraction is taken for microseconds. -/
theorem time_block (packet : Stamped) :
    packet.block.time.nanoseconds.toNat = Precision.micro.instant packet.seconds packet.fraction :=
  Timestamp.toNat_ofMicros packet.seconds packet.fraction

end Stamped

namespace Precision

/-- The instant that is attached to a packet is the one for microseconds, which is another one in nanoseconds unless
the packet was captured at a full second. -/
theorem time_eq_iff (precision : Precision) (packet : Stamped) :
    packet.block.time.nanoseconds.toNat = precision.instant packet.seconds packet.fraction ↔
      precision = micro ∨ packet.fraction = 0 := by
  rw [packet.time_block,← UInt32.toNat_inj]
  cases precision with
  | micro => exact iff_of_true rfl (.inl rfl)
  | nano =>
    simp only [instant,unit,reduceCtorEq,false_or,UInt32.toNat_zero]
    omega

/-- Fractions below a million keep packets of different seconds apart, whatever they count. -/
theorem time_le (precision : Precision) {earlier later : Stamped} (bound : earlier.fraction.toNat < 1000000)
    (bound' : later.fraction.toNat < 1000000)
    (ordered : precision.instant earlier.seconds earlier.fraction ≤ precision.instant later.seconds later.fraction) :
    earlier.block.time.nanoseconds ≤ later.block.time.nanoseconds := by
  rw [UInt64.le_iff_toNat_le,Stamped.time_block,Stamped.time_block]
  cases precision with
  | micro => exact ordered
  | nano =>
    simp only [instant,unit] at ordered ⊢
    omega

end Precision

/-- Packets stand one behind another at the front of some octets, and behind the last of them the rest is left. -/
inductive Stands (layout : Layout) : Bytes → List Stamped → Bytes → Prop
  | nothing (rest : Bytes) : Stands layout rest [] rest
  | record (packet : Stamped) (surplus more rest : Bytes) (packets : List Stamped)
    (size : surplus.length = layout.surplus) (others : Stands layout more packets rest) :
    Stands layout (packet.head layout.order ++ (surplus ++ (packet.data ++ more))) (packet :: packets) rest

theorem stamped_of_record {layout : Layout} {octets after : Bytes} {block : PacketBlock}
    (read : record layout octets = .found (block,after)) :
    ∃ packet : Stamped, ∃ surplus : Bytes, surplus.length = layout.surplus ∧ block = packet.block ∧
      octets = packet.head layout.order ++ (surplus ++ (packet.data ++ after)) := by
  unfold record at read
  split at read
  · rename_i s₀ s₁ s₂ s₃ f₀ f₁ f₂ f₃ c₀ c₁ c₂ c₃ o₀ o₁ o₂ o₃ rest
    dsimp only at read
    obtain ⟨⟨surplus,rest⟩,first,read⟩ := Scan.found_of_andThen _ _ _ read
    obtain ⟨⟨data,rest⟩,second,read⟩ := Scan.found_of_andThen _ _ _ read
    obtain ⟨rfl,rfl⟩ := Prod.mk.inj (Scan.found.inj read)
    obtain ⟨size,rfl⟩ := Scan.length_of_split _ _ _ _ first
    obtain ⟨all,rfl⟩ := Scan.length_of_split _ _ _ _ second
    refine ⟨⟨layout.order.word32 s₀ s₁ s₂ s₃,layout.order.word32 f₀ f₁ f₂ f₃,layout.order.word32 c₀ c₁ c₂ c₃,
      layout.order.word32 o₀ o₁ o₂ o₃,data,all⟩,surplus,size,rfl,?_⟩
    simp only [Stamped.head,ByteOrder.octets32_word32,List.append_assoc]
    rfl
  · cases read

end Pcap

/-- The packets that are read of any octets stand at their front, and nothing is left unless the reading fails. -/
theorem Reader.exists_stands {reader : Reader} (state : reader.State) {layout : Pcap.Layout} {octets : Bytes}
    (form : reader.form state = reader.records layout) (holds : (reader.window state).Holds octets) :
    ∃ (packets : List Pcap.Stamped) (rest : Bytes), (reader.read state).1 = packets.map (.packet ·.block) ∧
      Pcap.Stands layout octets packets rest ∧ ((reader.read state).2 = .ok () → rest = []) := by
  fun_induction Reader.read reader state generalizing octets with
  | case1 state block later stepped behind =>
    rename_i ih
    have reached := reader.reaches state
    rw [stepped] at reached
    cases reached with
    | yield _ _ piece rest buffered size found left =>
      rw [form,reader.block_records] at found
      obtain ⟨⟨packet,after⟩,inner,same⟩ := Scan.found_of_andThen _ _ _ found
      simp only [Scan.found.injEq,Prod.mk.injEq] at same
      obtain ⟨rfl,later_form,rfl⟩ := same
      obtain ⟨stamped,surplus,extra,rfl,whole⟩ := Pcap.stamped_of_record inner
      have holds_later : (reader.window later).Holds (after ++ (reader.window state).unread) := by
        rw [left]
        exact ⟨rfl,holds.seen⟩
      obtain ⟨packets,rest,blocks,stands,all⟩ := ih later_form.symm holds_later
      refine ⟨stamped :: packets,rest,congrArg _ blocks,?_,all⟩
      have octets_eq : octets =
          stamped.head layout.order ++ (surplus ++ (stamped.data ++ (after ++ (reader.window state).unread))) := by
        rw [← holds.there,Window.toList,buffered,whole]
        simp only [List.append_assoc]
      rw [octets_eq]
      exact .record _ _ _ _ _ extra stands
  | case2 state later stepped ih =>
    obtain ⟨same,fills⟩ := fills_of_refill stepped
    exact ih (same.trans form) (holds.fills fills)
  | case3 state ending stepped =>
    refine ⟨[],octets,rfl,.nothing octets,?_⟩
    rintro rfl
    rw [← holds.there]
    exact consumed_of_stop holds.seen stepped

theorem Recording.ofFile_heading (reader : Reader) (heading : Pcap.Heading) (octets : Bytes) :
    ∃ (packets : List Pcap.Stamped) (rest : Bytes) (ending : Except ReadError Unit),
      ofFile reader (heading.octets ++ octets) =
        .ok ⟨false,.linkType (signed32 heading.network) :: packets.map (.packet ·.block),ending⟩ ∧
      Pcap.Stands heading.layout octets packets rest ∧ (ending = .ok () → rest = []) := by
  obtain ⟨start,form,holds,read⟩ :=
    exists_read_header reader heading.length_octets heading.header_octets octets
  obtain ⟨packets,rest,blocks,stands,all⟩ := Reader.exists_stands start form holds
  refine ⟨packets,rest,_,?_,stands,all⟩
  rw [read,blocks]

end Sctp.Capture

namespace Sctp.Report

open Capture (Arithmetic Block PacketBlock Reader Recording)
open Capture.Pcap (Heading Precision Stamped Stands)

/-- A dump opens with the number of the packet and its time. -/
def Opening (number : Nat) (time : Capture.Timestamp) (text : String) : Prop :=
  ∃ more, text = Text.padLeft ' ' 5 (toString number) ++ "   " ++ time.text ++ " " ++ more

theorem Verdict.opening_of_dump {options : Options} {number : Nat} {block : PacketBlock} {verdict : Verdict}
    {text : String} (dumped : verdict.dump? options number block = some text) : Opening number block.time text := by
  obtain ⟨found,packet,-,rfl⟩ := exists_of_dump? dumped
  rw [Text.unlines,packetLines,List.map_cons,String.join_cons]
  simp only [Opening,String.append_assoc]
  exact ⟨_,rfl⟩

theorem Run.dumps_steps (options : Options) (ledger : Ledger) (before : Nat) (packets : List Stamped) :
    List.Forall₂ (fun packet dump => ∃ verdict : Verdict, dump = verdict.dump? options packet.2 packet.1.block)
      (packets.zipIdx (before + 1)) (ledger.dumps options (steps before (packets.map (.packet ·.block)))) := by
  induction packets generalizing ledger before with
  | nil => exact .nil
  | cons packet rest ih =>
    rw [List.zipIdx_cons]
    exact .cons ⟨_,rfl⟩ (ih (ledger.enter options packet.block) (before + 1))

namespace Outcome

/-- What may be written for each packet of a capture, in file order. -/
def dumpsIn (options : Options) (heading : Heading) (packets : List Stamped) : List (Option String) :=
  Ledger.dumps options .fresh
    (Run.steps 0 (.linkType (Capture.signed32 heading.network) :: packets.map (.packet ·.block)))

/-- How a capture is timed: its packets are the records behind the header, and each has the instant of its second and
of its fraction in microseconds. That is the instant the record tells where fractions are in microseconds, and in
nanoseconds only at a full second. Packets stay in the order of time if all fractions are below a million. A packet's
dump opens with its time. -/
structure Times (reader : Reader) (arithmetic : Arithmetic) (request : CommandLine.Request) (heading : Heading)
    (octets : Bytes) (packets : List Stamped) : Prop where
  read : ∃ rest ending, Recording.ofFile reader (heading.octets ++ octets) =
      .ok ⟨false,.linkType (Capture.signed32 heading.network) :: packets.map (.packet ·.block),ending⟩ ∧
    Stands heading.layout octets packets rest ∧ (ending = .ok () → rest = [])
  attached : ∀ packet ∈ packets,
    packet.block.time.nanoseconds.toNat = Precision.micro.instant packet.seconds packet.fraction
  faithful : ∀ packet ∈ packets,
    packet.block.time.nanoseconds.toNat = heading.precision.instant packet.seconds packet.fraction ↔
      heading.precision = .micro ∨ packet.fraction = 0
  ordered : (∀ packet ∈ packets, packet.fraction.toNat < 1000000) →
    packets.Pairwise (fun earlier later => heading.precision.instant earlier.seconds earlier.fraction ≤
      heading.precision.instant later.seconds later.fraction) →
    packets.Pairwise fun earlier later => earlier.block.time.nanoseconds ≤ later.block.time.nanoseconds
  dumped : ∃ behind, (request.statistics = false → behind = []) ∧
    (ofNode reader arithmetic request (.ok (.file (heading.octets ++ octets)))).entries.filterMap Entry.text? =
      (dumpsIn request.options heading packets).filterMap id ++ behind
  opened : List.Forall₂ (fun packet dump => ∀ text ∈ dump, Opening packet.2 packet.1.block.time text)
    (packets.zipIdx 1) (dumpsIn request.options heading packets)

/-- Whatever stands behind the header of a file of the older format, the packets that can be read of it are timed as if
fractions were in microseconds. -/
theorem ofNode_times (reader : Reader) (arithmetic : Arithmetic) (request : CommandLine.Request) (heading : Heading)
    (octets : Bytes) : ∃ packets, Times reader arithmetic request heading octets packets := by
  obtain ⟨packets,rest,ending,read,stands,all⟩ := Recording.ofFile_heading reader heading octets
  refine ⟨packets,⟨rest,ending,read,stands,all⟩,fun packet _ => packet.time_block,?_,?_,?_,?_⟩
  · intro packet _
    exact heading.precision.time_eq_iff packet
  · intro bounds ordered
    refine ordered.imp_of_mem ?_
    intro earlier later here there le
    exact heading.precision.time_le (bounds earlier here) (bounds later there) le
  · have silent : [Run.note s!"Reading PCAP file: {Text.Quoted.encode request.path}"].filterMap Entry.text? = [] := rfl
    obtain ⟨behind,closed,texts⟩ := texts_ofRecording arithmetic request silent
      ⟨false,.linkType (Capture.signed32 heading.network) :: packets.map (.packet ·.block),ending⟩
    have ended := Run.run?_headed arithmetic request.options Stamped.block
      (fun _ => PacketBlock.overflows_record _ _ _ _ _) (Capture.signed32 heading.network) packets
    refine ⟨behind,fun unasked => closed (.inl unasked),?_⟩
    rw [Ledger.printed_of_run? _ _ _ ended] at texts
    simp only [ofNode,Capture.Recording.ofNode,read]
    exact texts
  · refine (Run.dumps_steps request.options (Ledger.fresh.setLink _) 0 packets).imp ?_
    rintro ⟨packet,number⟩ dump ⟨verdict,rfl⟩ text dumped
    exact Verdict.opening_of_dump (Option.mem_def.mp dumped)

def microHeading : Heading where
  order := .big
  precision := .micro
  details := [0, 2, 0, 4, 0, 0, 0, 0, 0, 0, 0, 0, 0, 0, 0xFF, 0xFF]
  sixteen := rfl
  network := 101

/-- A packet in the last fraction of a second, and one at the start of the next second. -/
def turnOfSecond (precision : Precision) (fraction : UInt32) : Capture.Pcap.File where
  magic := precision.magic
  known := precision.known
  details := microHeading.details
  sixteen := rfl
  network := 101
  records :=
    [⟨1700000000, fraction, 36, plainCookieAck, plainCookieAck_fits⟩,
      ⟨1700000001, 0, 36, plainCookieAck, plainCookieAck_fits⟩]

def microFile : Capture.Pcap.File := turnOfSecond .micro 999999

theorem ofNode_times_microFile :
    ∃ first second, microHeading.octets ++ microFile.records.flatMap (Capture.Pcap.Record.octets .big) =
        microFile.octets .big ∧
      Times Capture.Stream.reader .checked ⟨"a", { dump := true }, false⟩ microHeading
        (microFile.records.flatMap (Capture.Pcap.Record.octets .big)) [first,second] ∧
      first.block.time.nanoseconds ≤ second.block.time.nanoseconds := by
  obtain ⟨packets,times⟩ := ofNode_times Capture.Stream.reader .checked ⟨"a", { dump := true }, false⟩ microHeading
    (microFile.records.flatMap (Capture.Pcap.Record.octets .big))
  have whole : microHeading.octets ++ microFile.records.flatMap (Capture.Pcap.Record.octets .big) =
      microFile.octets .big := rfl
  obtain ⟨rest,ending,read,-,-⟩ := times.read
  rw [whole,Recording.ofFile_pcap] at read
  obtain ⟨-,blocks,-⟩ := Recording.mk.inj (Except.ok.inj read)
  have same := (List.cons.inj blocks).2
  obtain ⟨first,second,rfl⟩ := List.length_eq_two.mp ((List.length_map _).symm.trans (congrArg List.length same).symm)
  have inner := Block.packet.inj (List.cons.inj same).1
  have outer := Block.packet.inj (List.cons.inj (List.cons.inj same).2).1
  obtain ⟨seconds,fraction,captured,wire,data,all⟩ := first
  obtain ⟨seconds',fraction',captured',wire',data',all'⟩ := second
  obtain ⟨rfl,rfl,-,-,-⟩ := PacketBlock.record.inj inner
  obtain ⟨rfl,rfl,-,-,-⟩ := PacketBlock.record.inj outer
  refine ⟨_,_,whole,times,?_⟩
  have ordered : Precision.micro.instant 1700000000 999999 ≤ Precision.micro.instant 1700000001 0 := by decide
  have pairs := times.ordered (by simp) (List.pairwise_pair.mpr ordered)
  exact (List.pairwise_cons.mp pairs).1 _ (List.mem_singleton.mpr rfl)

def nanoFile : Capture.Pcap.File := turnOfSecond .nano 999999999

/-- Fractions in nanoseconds put the first packet more than a quarter of an hour behind the second. -/
theorem ofNode_times_nanoFile :
    ∃ first second, Recording.ofFile Capture.Stream.reader (nanoFile.octets .big) =
        .ok ⟨false,[.linkType 101,.packet first,.packet second],.ok ()⟩ ∧
      first = .record 1700000000 999999999 36 36 plainCookieAck ∧
      second = .record 1700000001 0 36 36 plainCookieAck ∧
      first.time.nanoseconds.toNat ≠ Precision.nano.instant 1700000000 999999999 ∧
      Precision.nano.instant 1700000000 999999999 ≤ Precision.nano.instant 1700000001 0 ∧
      ¬ first.time.nanoseconds ≤ second.time.nanoseconds := by
  refine ⟨_,_,Recording.ofFile_pcap Capture.Stream.reader .big nanoFile,rfl,rfl,?_,?_,?_⟩
  all_goals decide

end Outcome

end Sctp.Report
