import Sctp.Proofs.Runs
import Mathlib.Algebra.BigOperators.Group.List.Lemmas

/-! The counters of a ledger add up. Every packet falls into one class, and only packets that carried
SCTP move the other counters; this holds of each tally on its own at every place of a run, since a packet
keeps it and so does a flush (`Balanced.count`, `Balanced.add`). Both tallies together count the chunks
and the ends of the packets that were admitted (`Accounted`). The main statement is `run_accounts`. -/
namespace Sctp

namespace AreaStatus

def isTrailing : AreaStatus → Bool
  | trailing _ _ => true
  | _ => false

def isBadLength : AreaStatus → Bool
  | badLength _ _ _ => true
  | _ => false

def isTruncated : AreaStatus → Bool
  | truncated _ _ _ => true
  | _ => false

end AreaStatus

namespace Report

/-- The counters of a tally fit each other. -/
structure Balanced (options : Options) (tally : Tally) : Prop where
  packets : tally.get .packets =
    tally.get .sctp + tally.get .notSctp + tally.get .filtered + tally.get .tooShort + tally.get .invalid
      + tally.get .insufficientLength + tally.get .sctpTooShort
  ends : tally.get .trailing + tally.get .badLength + tally.get .truncated ≤ tally.get .sctp
  mismatches : tally.get .badChecksum ≤ tally.get .sctp
  unchecked : options.checksum = false → tally.get .badChecksum = 0

theorem count_kinds (chunks : List Chunk) (kind : ChunkKind) :
    (chunks.map (Counter.chunks ·.kind)).count (.chunks kind) = chunks.countP (·.kind = kind) := by
  rw [List.count,List.countP_map]
  apply List.countP_congr
  intro chunk _
  simp

theorem count_kinds_of_ne {counter : Counter} (apart : ∀ kind, Counter.chunks kind ≠ counter) (chunks : List Chunk) :
    (chunks.map (Counter.chunks ·.kind)).count counter = 0 := by
  apply List.count_eq_zero.mpr
  intro member
  obtain ⟨chunk,-,same⟩ := List.mem_map.mp member
  exact apart _ same

theorem count_ofStatus? {counter : Counter} (trailing : counter ≠ .trailing) (badLength : counter ≠ .badLength)
    (truncated : counter ≠ .truncated) (status : AreaStatus) :
    (Counter.ofStatus? status).toList.count counter = 0 := by
  apply List.count_eq_zero.mpr
  intro member
  cases status with
  | complete => cases member
  | trailing _ _ => exact trailing (List.mem_singleton.mp member)
  | badLength _ _ _ => exact badLength (List.mem_singleton.mp member)
  | truncated _ _ _ => exact truncated (List.mem_singleton.mp member)

theorem ends_le_one (status : AreaStatus) :
    (Counter.ofStatus? status).toList.count .trailing + (Counter.ofStatus? status).toList.count .badLength
      + (Counter.ofStatus? status).toList.count .truncated ≤ 1 := by
  cases status <;> simp [Counter.ofStatus?]

/-- The packet behind a verdict, if it is counted as SCTP. -/
def Verdict.packet? : Verdict → Option Packet
  | .sctp _ packet => some packet
  | _ => none

/-- What a packet that carried SCTP adds to the counters other than those of its chunks. -/
theorem count_charges_sctp (options : Options) (found : Found) (packet : Packet) {counter : Counter}
    (apart : ∀ kind, Counter.chunks kind ≠ counter) :
    ((Verdict.sctp found packet).charges options).count counter =
      (if .sctp = counter then 1 else 0) + (Counter.ofStatus? packet.status).toList.count counter
        + if Verdict.isMismatch options packet then [Counter.badChecksum].count counter else 0 := by
  rw [Verdict.charges,List.count_cons,List.count_append,List.count_append,count_kinds_of_ne apart]
  split <;> simp only [beq_iff_eq,List.count_nil] <;> omega

theorem count_chunks_charges_sctp (options : Options) (found : Found) (packet : Packet) (kind : ChunkKind) :
    ((Verdict.sctp found packet).charges options).count (.chunks kind) = packet.chunks.countP (·.kind = kind) := by
  have ends : (Counter.ofStatus? packet.status).toList.count (.chunks kind) = 0 := by
    cases packet.status <;> rfl
  rw [Verdict.charges,List.count_cons,List.count_append,List.count_append,count_kinds,ends]
  split <;> simp

/-- The counters that only a packet counted as SCTP can move. -/
def Counter.isOfSctp : Counter → Bool
  | .sctp | .badChecksum | .trailing | .badLength | .truncated | .chunks _ => true
  | _ => false

/-- Packets that are not counted as SCTP leave these counters alone. -/
theorem charge_eq_zero {options : Options} {counter : Counter} (of_sctp : counter.isOfSctp = true)
    (block : Capture.PacketBlock) {verdict : Verdict} (other : verdict.packet? = none) :
    verdict.charge options block counter = 0 := by
  have counted : verdict.charge options block counter = (verdict.charges options).count counter := by
    cases counter with
    | packets | octets => cases of_sctp
    | _ => rfl
  have single : ∀ only, verdict.charges options = [only] → only.isOfSctp = false →
      verdict.charge options block counter = 0 := by
    intro only charges apart
    rw [counted,charges]
    apply List.count_eq_zero.mpr
    intro member
    rw [List.mem_singleton.mp member,apart] at of_sctp
    cases of_sctp
  cases verdict with
  | unreadable fault => cases fault <;> exact single _ rfl rfl
  | otherTraffic | tooShort _ | filtered _ => exact single _ rfl rfl
  | sctp found packet => cases other

theorem charge_eq_elim {options : Options} {counter : Counter} {weight : Packet → Nat}
    (of_sctp : counter.isOfSctp = true)
    (own : ∀ found packet, ((Verdict.sctp found packet).charges options).count counter = weight packet)
    (block : Capture.PacketBlock) (verdict : Verdict) :
    verdict.charge options block counter = verdict.packet?.elim 0 weight := by
  cases verdict with
  | sctp found packet =>
    rw [Verdict.packet?,Option.elim_some,← own found]
    cases counter with
    | packets | octets => cases of_sctp
    | _ => rfl
  | _ => exact charge_eq_zero of_sctp block rfl

theorem charge_sctp (options : Options) (block : Capture.PacketBlock) (verdict : Verdict) :
    verdict.charge options block .sctp = verdict.packet?.elim 0 fun _ => 1 := by
  apply charge_eq_elim rfl
  intro found packet
  simp [count_charges_sctp,count_ofStatus?]

namespace Balanced
variable {options : Options}

theorem zero : Balanced options .zero where
  packets := by simp only [Tally.get_zero]
  ends := by simp only [Tally.get_zero,Nat.le_refl]
  mismatches := by simp only [Tally.get_zero,Nat.le_refl]
  unchecked _ := Tally.get_zero _

theorem add {left right : Tally} (first : Balanced options left) (second : Balanced options right) :
    Balanced options (left.add right) where
  packets := by
    have one := first.packets
    have two := second.packets
    simp only [Tally.get_add]
    omega
  ends := by
    have one := first.ends
    have two := second.ends
    simp only [Tally.get_add]
    omega
  mismatches := by
    have one := first.mismatches
    have two := second.mismatches
    simp only [Tally.get_add]
    omega
  unchecked off := by rw [Tally.get_add,first.unchecked off,second.unchecked off]

theorem ofVerdict (block : Capture.PacketBlock) (verdict : Verdict) :
    Balanced options (Ledger.count options block verdict .zero) := by
  have get : ∀ counter, (Ledger.count options block verdict .zero).get counter =
      verdict.charge options block counter := by
    intro counter
    rw [Ledger.get_count,Tally.get_zero,Nat.zero_add]
  cases verdict with
  | unreadable fault =>
    cases fault <;> constructor <;> simp [get,Verdict.charge,Verdict.charges,Counter.ofHeaderError]
  | otherTraffic | tooShort _ | filtered _ => constructor <;> simp [get,Verdict.charge,Verdict.charges]
  | sctp found packet =>
    constructor
    · simp [get,Verdict.charge,count_charges_sctp,count_ofStatus?]
    · have once := ends_le_one packet.status
      simpa [get,Verdict.charge,count_charges_sctp,count_ofStatus?] using once
    · have mismatch : (if Verdict.isMismatch options packet then [Counter.badChecksum].count .badChecksum else 0) ≤ 1 := by
        split <;> decide
      simpa [get,Verdict.charge,count_charges_sctp,count_ofStatus?] using mismatch
    · intro off
      simp [get,Verdict.charge,count_charges_sctp,count_ofStatus?,Verdict.isMismatch,off]

theorem count {tally : Tally} (balanced : Balanced options tally) (block : Capture.PacketBlock)
    (verdict : Verdict) : Balanced options (Ledger.count options block verdict tally) := by
  have sum : Ledger.count options block verdict tally = tally.add (Ledger.count options block verdict .zero) := by
    apply Tally.ext_get
    intro counter
    rw [Tally.get_add,Ledger.get_count,Ledger.get_count,Tally.get_zero,Nat.zero_add]
  rw [sum]
  exact balanced.add (ofVerdict block verdict)

end Balanced

namespace Ledger

theorem balanced_settleIfDue {options : Options} {ledger : Ledger} (current : Balanced options ledger.current)
    (settled : Balanced options ledger.settled) :
    Balanced options ledger.settleIfDue.current ∧ Balanced options ledger.settleIfDue.settled := by
  unfold settleIfDue
  split
  · exact ⟨.zero,settled.add current⟩
  · exact ⟨current,settled⟩

theorem balanced_step {options : Options} {ledger : Ledger} (current : Balanced options ledger.current)
    (settled : Balanced options ledger.settled) (next : Step) :
    Balanced options (ledger.step options next).current ∧ Balanced options (ledger.step options next).settled := by
  cases next with
  | packet number block => exact balanced_settleIfDue (current.count block (ledger.verdict options block)) settled
  | link link => exact ⟨current,settled⟩
  | flush => exact ⟨.zero,settled.add current⟩

theorem balanced_run {options : Options} (ledger : Ledger) (current : Balanced options ledger.current)
    (settled : Balanced options ledger.settled) (steps : List Step) :
    Balanced options (ledger.run options steps).current ∧ Balanced options (ledger.run options steps).settled := by
  induction steps generalizing ledger with
  | nil => exact ⟨current,settled⟩
  | cons next rest ih =>
    obtain ⟨current,settled⟩ := balanced_step current settled next
    exact ih _ current settled

/-- The packet of a frame, if the frame carries one that passes the port filter. -/
def admitted? (port : Option UInt16) (link : LinkType) (frame : Bytes) : Option Packet :=
  match Frame.find? link frame with
  | .ok (some found) =>
    match Packet.decode found.payload with
    | .ok packet => if port.all packet.hasPort then some packet else none
    | .error _ => none
  | _ => none

def admitted (port : Option UInt16) (calls : List Call) : List Packet :=
  calls.filterMap fun call => admitted? port call.link call.block.data

theorem packet?_ofFrame (port : Option UInt16) (link : LinkType) (frame : Bytes) :
    (Verdict.ofFrame port link frame).packet? = admitted? port link frame := by
  unfold Verdict.ofFrame admitted?
  cases Frame.find? link frame with
  | error fault => rfl
  | ok found =>
    cases found with
    | none => rfl
    | some found =>
      dsimp only
      cases Packet.decode found.payload with
      | error fault => rfl
      | ok packet =>
        dsimp only
        split <;> rfl

theorem countP_eq_sum {Item : Type} (holds : Item → Bool) (items : List Item) :
    items.countP holds = (items.map fun item => if holds item then 1 else 0).sum := by
  induction items with
  | nil => rfl
  | cons item rest ih => rw [List.countP_cons,List.map_cons,List.sum_cons,ih,Nat.add_comm]

theorem sum_filterMap {Item Picked : Type} (pick : Item → Option Picked) (weight : Picked → Nat)
    (items : List Item) :
    ((items.filterMap pick).map weight).sum = (items.map fun item => (pick item).elim 0 weight).sum := by
  induction items with
  | nil => rfl
  | cons item rest ih =>
    rw [List.map_cons,List.sum_cons,← ih]
    cases picked : pick item with
    | none => rw [List.filterMap_cons_none picked,Option.elim_none,Nat.zero_add]
    | some found => rw [List.filterMap_cons_some picked,List.map_cons,List.sum_cons,Option.elim_some]

/-- A counter that moves for SCTP alone counts, over a run from nothing, what the admitted packets weigh. -/
theorem get_total_fresh (options : Options) (link : Option LinkType) (steps : List Step) {counter : Counter}
    (weight : Packet → Nat)
    (weighs : ∀ block (verdict : Verdict), verdict.charge options block counter = verdict.packet?.elim 0 weight) :
    (run options ⟨link, .zero, .zero⟩ steps).total.get counter =
      ((admitted options.port (calls link steps)).map weight).sum := by
  have each : ∀ call : Call, contribution options call.link call.block counter =
      (admitted? options.port call.link call.block.data).elim 0 weight := by
    intro call
    rw [contribution,weighs,packet?_ofFrame]
  rw [get_total_run,get_total,Tally.get_zero,Nat.zero_add,admitted,sum_filterMap]
  simp only [each]

theorem sum_kinds (kind : ChunkKind) : (ChunkKind.all.map fun other => if kind = other then 1 else 0).sum = 1 := by
  cases kind <;> rfl

theorem sum_countP_kinds (chunks : List Chunk) :
    (ChunkKind.all.map fun kind => chunks.countP (·.kind = kind)).sum = chunks.length := by
  induction chunks with
  | nil => rfl
  | cons chunk rest ih =>
    simp only [List.countP_cons,List.sum_map_add,ih,decide_eq_true_eq,List.length_cons]
    rw [sum_kinds]

theorem sum_kinds_packets (packets : List Packet) :
    (ChunkKind.all.map fun kind => (packets.map fun packet => packet.chunks.countP (·.kind = kind)).sum).sum =
      (packets.map (·.chunks.length)).sum := by
  induction packets with
  | nil => rfl
  | cons packet rest ih =>
    simp only [List.map_cons,List.sum_cons,List.sum_map_add,ih]
    rw [sum_countP_kinds]

/-- Both tallies together count the admitted packets, their chunks by kind and their ends. -/
structure Accounted (packets : List Packet) (tally : Tally) : Prop where
  sctp : tally.get .sctp = packets.length
  chunks : tally.chunks = (packets.map (·.chunks.length)).sum
  kinds : ∀ kind, tally.get (.chunks kind) = (packets.map fun packet => packet.chunks.countP (·.kind = kind)).sum
  trailing : tally.get .trailing = packets.countP (·.status.isTrailing)
  badLength : tally.get .badLength = packets.countP (·.status.isBadLength)
  truncated : tally.get .truncated = packets.countP (·.status.isTruncated)

theorem accounted_run (options : Options) (link : Option LinkType) (steps : List Step) :
    Accounted (admitted options.port (calls link steps)) (run options ⟨link, .zero, .zero⟩ steps).total := by
  have kinds : ∀ kind, (run options ⟨link, .zero, .zero⟩ steps).total.get (.chunks kind) =
      ((admitted options.port (calls link steps)).map fun packet =>
        packet.chunks.countP (·.kind = kind)).sum := by
    intro kind
    apply get_total_fresh
    exact charge_eq_elim rfl fun found packet => count_chunks_charges_sctp options found packet kind
  have ends : ∀ (counter : Counter) (holds : AreaStatus → Bool),
      counter.isOfSctp = true →
      (∀ found packet, ((Verdict.sctp found packet).charges options).count counter =
        if holds packet.status then 1 else 0) →
      (run options ⟨link, .zero, .zero⟩ steps).total.get counter =
        (admitted options.port (calls link steps)).countP (holds ·.status) := by
    intro counter holds of_sctp own
    rw [countP_eq_sum]
    exact get_total_fresh options link steps _ (charge_eq_elim of_sctp own)
  refine ⟨?sctp,?chunks,kinds,ends _ _ rfl ?trailing,ends _ _ rfl ?badLength,ends _ _ rfl ?truncated⟩
  case sctp =>
    have ones : (run options ⟨link, .zero, .zero⟩ steps).total.get .sctp =
        ((admitted options.port (calls link steps)).map fun _ => 1).sum := by
      apply get_total_fresh
      exact charge_sctp options
    rw [ones,List.map_const',List.sum_replicate_nat,Nat.mul_one]
  case chunks =>
    rw [← sum_kinds_packets]
    simp only [← kinds]
    rfl
  case trailing | badLength | truncated =>
    intro found packet
    cases status : packet.status <;> simp [count_charges_sctp,status,Counter.ofStatus?,AreaStatus.isTrailing,
      AreaStatus.isBadLength,AreaStatus.isTruncated]

/-- Each tally adds up at every place of a run from nothing, and both together account for the packets
that were admitted. -/
theorem run_accounts (options : Options) (link : Option LinkType) (steps : List Step) :
    Balanced options (run options ⟨link, .zero, .zero⟩ steps).current ∧
      Balanced options (run options ⟨link, .zero, .zero⟩ steps).settled ∧
      Accounted (admitted options.port (calls link steps)) (run options ⟨link, .zero, .zero⟩ steps).total := by
  have nothing : Balanced options .zero := .zero
  obtain ⟨current,settled⟩ := balanced_run ⟨link, .zero, .zero⟩ nothing nothing steps
  exact ⟨current,settled,accounted_run options link steps⟩

end Ledger

end Report

end Sctp
