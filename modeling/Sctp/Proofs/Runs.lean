import Sctp.Report.Ledger
import Mathlib.Algebra.BigOperators.Group.List.Basic
import Mathlib.Algebra.GroupWithZero.Nat
import Mathlib.Data.List.Induction

/-! Runs of a ledger: packets, changes of the link type and flushes in any order. The link type that a
packet is read by follows from the steps before it (`link_run`), and what the two tallies of a ledger
hold together is what they held at first and what each packet adds (`get_total_run`), wherever the one
was added to the other in between. -/
namespace Sctp.Report

namespace Verdict

/-- What a captured packet adds to a counter. -/
def charge (options : Options) (block : Capture.PacketBlock) (verdict : Verdict) : Counter → Nat
  | .packets => 1
  | .octets => block.capturedLength
  | counter => (verdict.charges options).count counter

/-- A dump is written of SCTP packets alone. -/
theorem exists_of_dump? {verdict : Verdict} {options : Options} {number : Nat} {block : Capture.PacketBlock}
    {text : String} (dumped : verdict.dump? options number block = some text) :
    ∃ found packet, verdict = .sctp found packet ∧
      Text.unlines (packetLines number block found (if options.lazy then packet else packet.parse)) = text := by
  obtain ⟨lines,listed,rfl⟩ := Option.map_eq_some_iff.mp dumped
  cases verdict with
  | sctp found packet =>
    rw [dumpLines?,Option.ite_none_right_eq_some] at listed
    obtain ⟨-,same⟩ := listed
    exact ⟨found,packet,rfl,congrArg Text.unlines (Option.some.inj same)⟩
  | _ => cases listed

theorem ne_of_mem_charges {options : Options} {verdict : Verdict} {counter : Counter}
    (charged : counter ∈ verdict.charges options) : counter ≠ .packets ∧ counter ≠ .octets := by
  cases verdict with
  | unreadable fault =>
    obtain rfl := List.mem_singleton.mp charged
    cases fault <;> exact ⟨nofun,nofun⟩
  | otherTraffic | tooShort _ | filtered _ =>
    obtain rfl := List.mem_singleton.mp charged
    exact ⟨nofun,nofun⟩
  | sctp found packet =>
    simp only [charges,List.mem_cons,List.mem_append,List.mem_map,Option.mem_toList] at charged
    rcases charged with rfl | (ends | ⟨chunk,-,rfl⟩) | mismatch
    · exact ⟨nofun,nofun⟩
    · revert ends
      cases packet.status <;> rintro ⟨⟩ <;> exact ⟨nofun,nofun⟩
    · exact ⟨nofun,nofun⟩
    · split at mismatch
      · obtain rfl := List.mem_singleton.mp mismatch
        exact ⟨nofun,nofun⟩
      · cases mismatch

end Verdict

theorem Tally.get_foldl_bump (counters : List Counter) (tally : Tally) (counter : Counter) :
    (counters.foldl (fun tally counter => tally.bump counter 1) tally).get counter =
      tally.get counter + counters.count counter := by
  induction counters generalizing tally with
  | nil => rfl
  | cons first rest ih =>
    rw [List.foldl_cons,ih,get_bump,List.count_cons,Nat.add_assoc,Nat.add_comm (rest.count counter)]
    simp only [beq_iff_eq]

namespace Ledger

theorem get_count (options : Options) (block : Capture.PacketBlock) (verdict : Verdict) (tally : Tally)
    (counter : Counter) :
    (count options block verdict tally).get counter =
      tally.get counter + verdict.charge options block counter := by
  have packets : (verdict.charges options).count .packets = 0 :=
    List.count_eq_zero.mpr fun charged => (Verdict.ne_of_mem_charges charged).1 rfl
  have octets : (verdict.charges options).count .octets = 0 :=
    List.count_eq_zero.mpr fun charged => (Verdict.ne_of_mem_charges charged).2 rfl
  rw [count,Tally.get_foldl_bump,Tally.get_bump,Tally.get_bump]
  cases counter with
  | packets => simp [Verdict.charge,packets]
  | octets => simp [Verdict.charge,octets]
  | _ => simp [Verdict.charge]

/-- What is counted in both tallies together. -/
def total (ledger : Ledger) : Tally := ledger.current.add ledger.settled

theorem get_total (ledger : Ledger) (counter : Counter) :
    ledger.total.get counter = ledger.current.get counter + ledger.settled.get counter :=
  Tally.get_add _ _ _

theorem total_flush (ledger : Ledger) : ledger.flush.total = ledger.total := by
  apply Tally.ext_get
  intro counter
  simp only [get_total,flush,Tally.get_zero,Tally.get_add]
  omega

theorem total_settleIfDue (ledger : Ledger) : ledger.settleIfDue.total = ledger.total := by
  unfold settleIfDue
  split
  · exact total_flush ledger
  · rfl

theorem link_settleIfDue (ledger : Ledger) : ledger.settleIfDue.link = ledger.link := by
  unfold settleIfDue
  split <;> rfl

/-- What a packet that is read by a link type adds to a counter. -/
def contribution (options : Options) (link : LinkType) (block : Capture.PacketBlock) (counter : Counter) : Nat :=
  (Verdict.ofFrame options.port link block.data).charge options block counter

theorem get_total_enter (options : Options) (ledger : Ledger) (block : Capture.PacketBlock) (counter : Counter) :
    (ledger.enter options block).total.get counter =
      ledger.total.get counter + contribution options (ledger.linkFor block) block counter := by
  rw [enter,total_settleIfDue,get_total,get_total,get_count]
  exact Nat.add_right_comm _ _ _

theorem link_enter (options : Options) (ledger : Ledger) (block : Capture.PacketBlock) :
    (ledger.enter options block).link = some (ledger.linkFor block) := link_settleIfDue _

inductive Step
  | packet (number : Nat) (block : Capture.PacketBlock)
  | link (link : Option LinkType)
  | flush

namespace Step

def block? : Step → Option Capture.PacketBlock
  | packet _ block => some block
  | _ => none

/-- The link type that is set, which may be that none is known. -/
def link? : Step → Option (Option LinkType)
  | link set => some set
  | _ => none

def isFlush : Step → Bool
  | flush => true
  | _ => false

end Step

def step (options : Options) (ledger : Ledger) : Step → Ledger
  | .packet _ block => ledger.enter options block
  | .link link => ledger.setLink link
  | .flush => ledger.flush

def run (options : Options) (ledger : Ledger) (steps : List Step) : Ledger := steps.foldl (step options) ledger

theorem run_concat (options : Options) (ledger : Ledger) (front : List Step) (last : Step) :
    ledger.run options (front ++ [last]) = (ledger.run options front).step options last :=
  List.foldl_concat _ _ _ _

/-- What a run writes for its packets, one entry for each. -/
def dumps (options : Options) (ledger : Ledger) : List Step → List (Option String)
  | [] => []
  | .packet number block :: rest =>
    (ledger.verdict options block).dump? options number block :: dumps options (ledger.enter options block) rest
  | step :: rest => dumps options (ledger.step options step) rest

/-- The link type that was last set, or was there at the start if none was set. -/
def lastSet (start : Option LinkType) (before : List Step) : Option LinkType :=
  (before.filterMap Step.link?).getLast?.getD start

/-- The packets since the link type was last set. -/
def packetsSince (before : List Step) : List Capture.PacketBlock :=
  ((before.reverse.takeWhile (·.link?.isNone)).filterMap Step.block?).reverse

/-- The link type that a packet is read by after some steps: the one last set, or what the first packet
since then looks like. -/
def inForce (start : Option LinkType) (before : List Step) (block : Capture.PacketBlock) : LinkType :=
  (lastSet start before).getD (.guess ((packetsSince before).headD block).data)

theorem lastSet_concat (start : Option LinkType) (before : List Step) (last : Step) :
    lastSet start (before ++ [last]) = last.link?.getD (lastSet start before) := by
  rw [lastSet,List.filterMap_append]
  cases last <;> simp [Step.link?,lastSet]

theorem packetsSince_concat (before : List Step) (last : Step) :
    packetsSince (before ++ [last]) =
      if last.link?.isNone then packetsSince before ++ last.block?.toList else [] := by
  rw [packetsSince,List.reverse_concat,List.takeWhile_cons]
  cases last with
  | packet number block => exact List.reverse_cons
  | link link => rfl
  | flush => exact (List.append_nil _).symm

/-- The link type that a ledger holds after some steps, if it was set or a packet has shown it. -/
def linkAfter (start : Option LinkType) (before : List Step) : Option LinkType :=
  (lastSet start before).or ((packetsSince before).head?.map fun block => .guess block.data)

theorem inForce_eq (start : Option LinkType) (before : List Step) (block : Capture.PacketBlock) :
    inForce start before block = (linkAfter start before).getD (.guess block.data) := by
  unfold inForce linkAfter
  cases lastSet start before with
  | some link => rfl
  | none => cases packetsSince before <;> rfl

theorem linkAfter_packet (start : Option LinkType) (before : List Step) (number : Nat)
    (block : Capture.PacketBlock) :
    linkAfter start (before ++ [.packet number block]) = some (inForce start before block) := by
  unfold linkAfter inForce
  rw [lastSet_concat,packetsSince_concat]
  cases set : lastSet start before with
  | some link => simp [Step.link?]
  | none => cases packetsSince before <;> simp [Step.link?,Step.block?]

theorem linkAfter_link (start : Option LinkType) (before : List Step) (link : Option LinkType) :
    linkAfter start (before ++ [.link link]) = link := by
  rw [linkAfter,lastSet_concat,packetsSince_concat]
  exact Option.or_none

theorem linkAfter_flush (start : Option LinkType) (before : List Step) :
    linkAfter start (before ++ [.flush]) = linkAfter start before := by
  have set : lastSet start (before ++ [.flush]) = lastSet start before := lastSet_concat _ _ _
  have since : packetsSince (before ++ [.flush]) = packetsSince before :=
    (packetsSince_concat _ _).trans (List.append_nil _)
  rw [linkAfter,set,since,linkAfter]

theorem link_run (options : Options) (ledger : Ledger) (steps : List Step) :
    (ledger.run options steps).link = linkAfter ledger.link steps := by
  induction steps using List.reverseRecOn with
  | nil => exact (Option.or_none).symm
  | append_singleton before last ih =>
    rw [run_concat]
    cases last with
    | packet number block =>
      rw [linkAfter_packet,inForce_eq,← ih]
      exact link_enter _ _ _
    | link link => exact (linkAfter_link _ _ _).symm
    | flush => exact ih.trans (linkAfter_flush _ _).symm

theorem linkFor_run (options : Options) (ledger : Ledger) (before : List Step) (block : Capture.PacketBlock) :
    (ledger.run options before).linkFor block = inForce ledger.link before block := by
  rw [inForce_eq,← link_run options]
  rfl

/-- A packet of a run, with the link type that it is read by. -/
structure Call where
  number : Nat
  block : Capture.PacketBlock
  link : LinkType

def callsFrom (start : Option LinkType) (before : List Step) : List Step → List Call
  | [] => []
  | .packet number block :: rest =>
    ⟨number, block, inForce start before block⟩ :: callsFrom start (before ++ [.packet number block]) rest
  | step :: rest => callsFrom start (before ++ [step]) rest

def calls (start : Option LinkType) (steps : List Step) : List Call := callsFrom start [] steps

def Call.dump? (options : Options) (call : Call) : Option String :=
  (Verdict.ofFrame options.port call.link call.block.data).dump? options call.number call.block

theorem get_total_run_from (options : Options) (ledger : Ledger) (before rest : List Step) (counter : Counter) :
    (ledger.run options (before ++ rest)).total.get counter =
      (ledger.run options before).total.get counter +
        ((callsFrom ledger.link before rest).map fun call =>
          contribution options call.link call.block counter).sum := by
  induction rest generalizing before with
  | nil =>
    rw [List.append_nil]
    rfl
  | cons next rest ih =>
    rw [List.append_cons,ih,run_concat]
    cases next with
    | packet number block =>
      have entered := get_total_enter options (ledger.run options before) block counter
      rw [linkFor_run] at entered
      rw [callsFrom,List.map_cons,List.sum_cons,← Nat.add_assoc]
      exact congrArg (· + _) entered
    | link link => rfl
    | flush => exact congrArg (·.get counter + _) (total_flush _)

/-- Both tallies of a ledger hold together what they held at first and what each packet adds. -/
theorem get_total_run (options : Options) (ledger : Ledger) (steps : List Step) (counter : Counter) :
    (ledger.run options steps).total.get counter =
      ledger.total.get counter +
        ((calls ledger.link steps).map fun call => contribution options call.link call.block counter).sum :=
  get_total_run_from options ledger [] steps counter

theorem dumps_run_from (options : Options) (ledger : Ledger) (before rest : List Step) :
    dumps options (ledger.run options before) rest =
      (callsFrom ledger.link before rest).map (Call.dump? options) := by
  induction rest generalizing before with
  | nil => rfl
  | cons next rest ih =>
    have later := ih (before ++ [next])
    rw [run_concat] at later
    cases next with
    | packet number block =>
      rw [dumps,callsFrom,List.map_cons,Call.dump?,← linkFor_run options]
      exact congrArg _ later
    | link link => exact later
    | flush => exact later

end Ledger

end Sctp.Report
