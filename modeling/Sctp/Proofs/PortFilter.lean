import Sctp.Proofs.Accounting
import Sctp.Proofs.Batching

/-! Reporting through a port filter is reporting the packets that have the port. The filter turns the verdict on
a packet without the port from SCTP to filtered and leaves every other verdict as it is (`ofFrame_some`). So a
counter is moved as without the filter, or by the packets with the port alone, or it is one of the two between
which the SCTP packets are divided. The main statement is `filters`. -/
namespace Sctp.Report

/-- The frame holds a common header with the port on either side. -/
def involves (port : UInt16) (link : LinkType) (frame : Bytes) : Bool :=
  match Frame.find? link frame with
  | .ok (some found) =>
    match Header.read? found.payload with
    | some (header,_) => header.srcPort = port || header.dstPort = port
    | none => false
  | _ => false

/-- The counters that are moved before the ports of a packet are looked at. -/
def Counter.isBeforePort : Counter → Bool
  | .packets | .octets | .notSctp | .tooShort | .invalid | .insufficientLength | .sctpTooShort => true
  | _ => false

namespace Verdict

/-- The verdict where there is a filter that the packet does not pass. -/
def screened : Verdict → Verdict
  | sctp _ packet => filtered packet
  | other => other

theorem ofFrame_some (port : UInt16) (link : LinkType) (frame : Bytes) :
    ofFrame (some port) link frame =
      if involves port link frame then ofFrame none link frame else (ofFrame none link frame).screened := by
  cases there : Frame.find? link frame with
  | error fault =>
    simp only [ofFrame,involves,there]
    rfl
  | ok found =>
    cases found with
    | none =>
      simp only [ofFrame,involves,there]
      rfl
    | some found =>
      cases read : Header.read? found.payload with
      | none =>
        simp only [ofFrame,involves,there,Packet.decode,read]
        rfl
      | some parts =>
        obtain ⟨header,area⟩ := parts
        have ports : (Packet.ofParts header area).hasPort port =
            (decide (header.srcPort = port) || decide (header.dstPort = port)) := by
          simp only [Packet.hasPort,Packet.ofParts,beq_eq_decide]
        simp only [ofFrame,involves,there,Packet.decode,read,Option.all_some,Option.all_none,ports,if_true]
        rfl

theorem ofFrame_none_ne_filtered (link : LinkType) (frame : Bytes) (packet : Packet) :
    ofFrame none link frame ≠ filtered packet := by
  unfold ofFrame
  split
  · nofun
  · nofun
  · split
    · nofun
    · rw [Option.all_none,if_pos rfl]
      nofun

/-- A packet that is counted as SCTP moves the counters of SCTP and, besides number and size, no others. -/
theorem count_charges_sctp_eq_zero (options : Options) (found : Found) (packet : Packet) {counter : Counter}
    (other : counter.isOfSctp = false) : ((sctp found packet).charges options).count counter = 0 := by
  apply List.count_eq_zero.mpr
  intro charged
  simp only [charges,List.mem_cons,List.mem_append,List.mem_map,Option.mem_toList] at charged
  rcases charged with rfl | (ends | ⟨chunk,-,rfl⟩) | mismatch
  · cases other
  · revert ends
    cases packet.status <;> rintro ⟨⟩ <;> cases other
  · cases other
  · split at mismatch
    · obtain rfl := List.mem_singleton.mp mismatch
      cases other
    · cases mismatch

section Charge
variable (options : Options) (block : Capture.PacketBlock) (verdict : Verdict)

theorem charge_port (port : Option UInt16) (counter : Counter) :
    verdict.charge { options with port := port } block counter = verdict.charge options block counter := by
  have charges : verdict.charges { options with port := port } = verdict.charges options := by
    cases verdict <;> rfl
  cases counter <;> simp only [charge,charges]

theorem charge_screened_before {counter : Counter} (before : counter.isBeforePort = true) :
    verdict.screened.charge options block counter = verdict.charge options block counter := by
  cases verdict with
  | sctp found packet =>
    cases counter with
    | packets | octets => rfl
    | notSctp | tooShort | invalid | insufficientLength | sctpTooShort =>
      exact (count_charges_sctp_eq_zero options found packet rfl).symm
    | _ => cases before
  | _ => rfl

theorem charge_screened_of_sctp {counter : Counter} (of_sctp : counter.isOfSctp = true) :
    verdict.screened.charge options block counter = 0 := by
  apply charge_eq_zero of_sctp
  cases verdict <;> rfl

theorem charge_filtered (unfiltered : ∀ packet, verdict ≠ filtered packet) :
    verdict.charge options block .filtered = 0 := by
  cases verdict with
  | unreadable fault => cases fault <;> rfl
  | otherTraffic | tooShort _ => rfl
  | filtered packet => exact (unfiltered packet rfl).elim
  | sctp found packet => exact count_charges_sctp_eq_zero options found packet rfl

/-- An SCTP packet that does not pass is counted as filtered in place of SCTP. -/
theorem charge_filtered_screened (unfiltered : ∀ packet, verdict ≠ filtered packet) :
    verdict.screened.charge options block .filtered = verdict.charge options block .sctp := by
  rw [charge_sctp]
  cases verdict with
  | unreadable fault => cases fault <;> rfl
  | otherTraffic | tooShort _ | sctp _ _ => rfl
  | filtered packet => exact (unfiltered packet rfl).elim

end Charge

end Verdict

namespace Ledger

section Contribution
variable (options : Options) (port : UInt16) (link : LinkType) (block : Capture.PacketBlock)

theorem contribution_none (counter : Counter) :
    contribution { options with port := none } link block counter =
      (Verdict.ofFrame none link block.data).charge options block counter :=
  Verdict.charge_port _ _ _ _ _

theorem contribution_some (counter : Counter) :
    contribution { options with port := some port } link block counter =
      if involves port link block.data then contribution { options with port := none } link block counter
      else (Verdict.ofFrame none link block.data).screened.charge options block counter := by
  rw [contribution_none,contribution,Verdict.charge_port,Verdict.ofFrame_some]
  split <;> rfl

theorem contribution_before {counter : Counter} (before : counter.isBeforePort = true) :
    contribution { options with port := some port } link block counter =
      contribution { options with port := none } link block counter := by
  rw [contribution_some,Verdict.charge_screened_before _ _ _ before,contribution_none,ite_self]

theorem contribution_of_sctp {counter : Counter} (of_sctp : counter.isOfSctp = true) :
    contribution { options with port := some port } link block counter =
      if involves port link block.data then contribution { options with port := none } link block counter else 0 := by
  rw [contribution_some,Verdict.charge_screened_of_sctp _ _ _ of_sctp]

theorem contribution_divided :
    contribution { options with port := some port } link block .sctp +
        contribution { options with port := some port } link block .filtered =
      contribution { options with port := none } link block .sctp := by
  have unfiltered := Verdict.ofFrame_none_ne_filtered link block.data
  rw [contribution_of_sctp _ _ _ _ rfl,contribution_some,contribution_none,contribution_none,
    Verdict.charge_filtered _ _ _ unfiltered,Verdict.charge_filtered_screened _ _ _ unfiltered]
  split
  · exact Nat.add_zero _
  · exact Nat.zero_add _

theorem dump_some (number : Nat) :
    (Verdict.ofFrame (some port) link block.data).dump? { options with port := some port } number block =
      if involves port link block.data then
        (Verdict.ofFrame none link block.data).dump? { options with port := none } number block
      else none := by
  have same : ∀ verdict : Verdict, verdict.dump? { options with port := some port } number block =
      verdict.dump? { options with port := none } number block := by
    intro verdict
    cases verdict <;> rfl
  rw [Verdict.ofFrame_some,same]
  split
  · rfl
  · cases Verdict.ofFrame none link block.data <;> rfl

end Contribution

def packetSteps (packets : List (Nat × Capture.PacketBlock)) : List Step :=
  packets.map fun packet => .packet packet.1 packet.2

theorem calls_packetSteps (link : LinkType) (packets : List (Nat × Capture.PacketBlock)) {before : List Step}
    (unset : ∀ step ∈ before, step.link? = none) :
    callsFrom (some link) before (packetSteps packets) =
      packets.map fun packet => ⟨packet.1, packet.2, link⟩ := by
  induction packets generalizing before with
  | nil => rfl
  | cons packet rest ih =>
    have unset_later : ∀ step ∈ before ++ [.packet packet.1 packet.2], step.link? = none := by
      intro step member
      rcases List.mem_append.mp member with member | member
      · exact unset step member
      · rw [List.mem_singleton.mp member]
        rfl
    have later := ih unset_later
    rw [packetSteps] at later
    rw [packetSteps,List.map_cons,callsFrom,inForce_of_unset unset,later,List.map_cons]

section Through
variable (options : Options) (link : LinkType) (start : Ledger) (port : Option UInt16)
  (packets : List (Nat × Capture.PacketBlock))

/-- The ledger behind some packets, with the link type set before them, through a port filter or without one. -/
def through : Ledger := (start.setLink (some link)).run { options with port := port } (packetSteps packets)

def dumpsThrough : List (Option String) :=
  dumps { options with port := port } (start.setLink (some link)) (packetSteps packets)

theorem get_total_through (counter : Counter) :
    (through options link start port packets).total.get counter =
      start.total.get counter +
        (packets.map fun packet => contribution { options with port := port } link packet.2 counter).sum := by
  have called := calls_packetSteps link packets (List.forall_mem_nil _)
  rw [through,get_total_run,calls,setLink,called,List.map_map]
  rfl

theorem dumpsThrough_eq :
    dumpsThrough options link start port packets =
      packets.map fun packet =>
        (Verdict.ofFrame port link packet.2.data).dump? { options with port := port } packet.1 packet.2 := by
  have dumped := dumps_run_from { options with port := port } (start.setLink (some link)) [] (packetSteps packets)
  have called := calls_packetSteps link packets (List.forall_mem_nil _)
  rw [setLink,called,List.map_map] at dumped
  exact dumped

end Through

theorem sum_filter {Item : Type} (holds : Item → Bool) (weight : Item → Nat) (items : List Item) :
    ((items.filter holds).map weight).sum = (items.map fun item => if holds item then weight item else 0).sum := by
  induction items with
  | nil => rfl
  | cons item rest ih =>
    rw [List.map_cons,List.sum_cons,← ih,List.filter_cons]
    split
    · rw [List.map_cons,List.sum_cons]
    · rw [Nat.zero_add]

/-- What a port filter makes of a report, against the report without one, with the link type set beforehand and
the same counters at the start. Some counters are as without the filter, those of SCTP are as without it over
the packets with the port, and the rest of the SCTP packets are those that were filtered. These packets are
dumped as without the filter, and no others. -/
structure Filters (options : Options) (link : LinkType) (start : Ledger) (port : UInt16)
    (packets : List (Nat × Capture.PacketBlock)) : Prop where
  before : ∀ counter, counter.isBeforePort = true →
    (through options link start (some port) packets).total.get counter =
      (through options link start none packets).total.get counter
  divided :
    (through options link start (some port) packets).total.get .sctp +
        (through options link start (some port) packets).total.get .filtered =
      (through options link start none packets).total.get .sctp + start.total.get .filtered
  chosen : ∀ counter, counter.isOfSctp = true →
    (through options link start (some port) packets).total.get counter =
      (through options link start none
        (packets.filter fun packet => involves port link packet.2.data)).total.get counter
  dumps : dumpsThrough options link start (some port) packets =
    packets.zipWith (fun packet dump => if involves port link packet.2.data then dump else none)
      (dumpsThrough options link start none packets)
  written : (dumpsThrough options link start (some port) packets).filterMap id =
    (dumpsThrough options link start none
      (packets.filter fun packet => involves port link packet.2.data)).filterMap id

theorem filters (options : Options) (link : LinkType) (start : Ledger) (port : UInt16)
    (packets : List (Nat × Capture.PacketBlock)) : Filters options link start port packets := by
  constructor
  case before =>
    intro counter before
    rw [get_total_through,get_total_through]
    simp only [contribution_before options port link _ before]
  case divided =>
    simp only [get_total_through,← contribution_divided options port link,List.sum_map_add]
    omega
  case chosen =>
    intro counter of_sctp
    rw [get_total_through,get_total_through,sum_filter]
    simp only [contribution_of_sctp options port link _ of_sctp]
  case dumps =>
    rw [dumpsThrough_eq,dumpsThrough_eq,List.zipWith_map_right,List.zipWith_self]
    simp only [dump_some]
  case written =>
    rw [dumpsThrough_eq,dumpsThrough_eq,List.filterMap_map,List.filterMap_map,List.filterMap_filter]
    simp only [dump_some,Function.comp_def,id]

end Ledger

end Sctp.Report
