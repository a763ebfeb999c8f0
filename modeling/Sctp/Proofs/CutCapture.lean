import Sctp.Proofs.BrokenOff
import Sctp.Proofs.CaptureRun
import Sctp.Proofs.PortFilter

/-! A report on a capture that is cut. The records that are there as a whole are dumped and counted as in the whole
capture, each under its number and on its own (`dumps_blocks`, `counted_blocks`); behind the dumps stand the
statistics, if the cut is between two records, and else the run has failed. So the dumps of a front of a capture are
a front of its dumps. The main statement is `execute_take`. -/
namespace Sctp.Report

open Capture (Arithmetic Block PacketBlock Reader)

theorem Directive.read_off : read "off" = .ok ⟨.everything,none⟩ := by decide +kernel

theorem Filter.ofText?_off : ofText? (some "off") = some off := by
  have parts : "off".splitOn "," = ["off"] := by
    -- none of the three characters is a comma
    rw [String.splitOn,if_neg (by decide +kernel)]
    iterate 3 rw [String.splitOnAux,if_neg (by decide +kernel),if_neg (by decide +kernel)]
    rw [String.splitOnAux,if_pos (by decide +kernel)]
    decide +kernel
  have named : ["off"].filter (!·.isEmpty) = ["off"] := by decide +kernel
  rw [ofText?,read,parts,named,List.mapM_cons,Directive.read_off]
  rfl

theorem Outcome.output_off (outcome : Outcome) :
    outcome.output .off = String.join (outcome.entries.filterMap Entry.text?) := by
  rw [output]
  induction outcome.entries with
  | nil => rfl
  | cons entry rest ih =>
    rw [List.map_cons,String.join_cons,ih]
    cases entry with
    | text written => exact String.join_cons.symm
    | event logged =>
      have silent : (Entry.event logged).render .off = "" := by
        rw [Entry.render,Filter.off,Filter.admits_ofLimit]
        rfl
      rw [silent,String.empty_append]
      rfl

namespace Ledger

/-- The link type by which packets are read: the one that is set before them, or what the first looks like. -/
def readBy (link : Option LinkType) (packets : List (Nat × PacketBlock)) : LinkType :=
  link.getD (.guess ((packets.head?.map (·.2.data)).getD []))

theorem readBy_take_succ (link : Option LinkType) (packets : List (Nat × PacketBlock)) (k : Nat) :
    readBy link (packets.take (k + 1)) = readBy link packets := by
  cases packets <;> rfl

section Packets
variable (options : Options) (ledger : Ledger) (link : Option LinkType) (packets : List (Nat × PacketBlock))

theorem dumps_packetSteps :
    dumps options (ledger.setLink link) (packetSteps packets) =
      packets.map fun packet =>
        (Verdict.ofFrame options.port (readBy link packets) packet.2.data).dump? options packet.1 packet.2 := by
  have linked := fun link => dumpsThrough_eq options link ledger options.port packets
  cases link with
  | some link => exact linked link
  | none =>
    cases packets with
    | nil => rfl
    | cons first rest =>
      -- a guess from the first packet could as well have been set before it
      exact linked (.guess first.2.data)

theorem get_total_packetSteps (counter : Counter) :
    ((ledger.setLink link).run options (packetSteps packets)).total.get counter =
      ledger.total.get counter +
        (packets.map fun packet => contribution options (readBy link packets) packet.2 counter).sum := by
  have linked := fun link => get_total_through options link ledger options.port packets counter
  cases link with
  | some link => exact linked link
  | none =>
    cases packets with
    | nil => rfl
    | cons first rest => exact linked (.guess first.2.data)

/-- The counters of some packets, each counted on its own, without a ledger between them. -/
def countAll (link : LinkType) : Tally :=
  packets.foldl
    (fun tally packet => count options packet.2 (Verdict.ofFrame options.port link packet.2.data) tally) .zero

theorem get_countAll (link : LinkType) (counter : Counter) :
    (countAll options packets link).get counter =
      (packets.map fun packet => contribution options link packet.2 counter).sum := by
  induction packets using List.reverseRecOn with
  | nil => exact Tally.get_zero counter
  | append_singleton front last ih =>
    rw [countAll,List.foldl_concat,get_count,← countAll,ih,List.map_append,List.sum_append,List.map_singleton,
      List.sum_singleton]
    rfl

end Packets

theorem settled_flush (ledger : Ledger) : ledger.flush.settled = ledger.total := by
  apply Tally.ext_get
  intro counter
  rw [get_total,flush,Tally.get_add,Nat.add_comm]

end Ledger

theorem Run.steps_packets (before : Nat) (packets : List PacketBlock) :
    steps before (packets.map .packet) =
      Ledger.packetSteps ((packets.zipIdx (before + 1)).map fun packet => (packet.2,packet.1)) := by
  induction packets generalizing before with
  | nil => rfl
  | cons packet rest ih => exact congrArg _ (ih (before + 1))

theorem Run.take_zipIdx {Item : Type} (items : List Item) (first k : Nat) :
    (items.zipIdx first).take k = (items.take k).zipIdx first := by
  induction items generalizing first k with
  | nil => rw [List.zipIdx_nil,List.take_nil,List.take_nil,List.zipIdx_nil]
  | cons item rest ih =>
    cases k with
    | zero => rfl
    | succ k => rw [List.zipIdx_cons,List.take_succ_cons,ih,List.take_succ_cons,List.zipIdx_cons]

section Capture
variable (options : Options) (capture : Capture.Pcap.Savefile)

/-- The records of a capture as packets; the place of each in the file, from one on, is its number. -/
def numbered : List (Nat × PacketBlock) := (capture.entries.zipIdx 1).map fun entry => (entry.2,entry.1.block)

def linkOf : LinkType := Ledger.readBy (LinkType.ofCode? (Capture.signed32 capture.network)) (numbered capture)

def dumpsOf : List (Option String) :=
  (numbered capture).map fun packet =>
    (Verdict.ofFrame options.port (linkOf capture) packet.2.data).dump? options packet.1 packet.2

def countsOf (k : Nat) : Tally := Ledger.countAll options ((numbered capture).take k) (linkOf capture)

theorem steps_blocks (k : Nat) :
    Run.steps 0 (capture.blocks k) =
      .link (LinkType.ofCode? (Capture.signed32 capture.network)) ::
        Ledger.packetSteps ((numbered capture).take k) := by
  have packets : (capture.entries.take k).map (Block.packet ·.block) =
      ((capture.entries.take k).map (·.block)).map Block.packet := by
    rw [List.map_map]
    rfl
  rw [Capture.Pcap.Savefile.blocks,Run.steps,packets,Run.steps_packets,numbered,← List.map_take,Run.take_zipIdx,
    List.zipIdx_map,List.map_map]
  rfl

theorem run?_blocks (arithmetic : Arithmetic) (k : Nat) :
    Ledger.fresh.run? arithmetic options (Run.steps 0 (capture.blocks k)) =
      some (Ledger.fresh.run options (Run.steps 0 (capture.blocks k))) :=
  Run.run?_headed arithmetic options _ (fun _ => PacketBlock.overflows_record _ _ _ _ _) _ _

theorem dumps_blocks (k : Nat) :
    Ledger.dumps options .fresh (Run.steps 0 (capture.blocks k)) = (dumpsOf options capture).take k := by
  rw [steps_blocks,dumpsOf,← List.map_take]
  refine (Ledger.dumps_packetSteps options .fresh _ _).trans ?_
  cases k with
  | zero => rfl
  | succ k => rw [Ledger.readBy_take_succ,linkOf]

theorem counted_blocks (k : Nat) :
    (Ledger.fresh.run options (Run.steps 0 (capture.blocks k))).flush.settled = countsOf options capture k := by
  apply Tally.ext_get
  intro counter
  rw [Ledger.settled_flush,steps_blocks,countsOf,Ledger.get_countAll]
  refine (Ledger.get_total_packetSteps options .fresh _ _ counter).trans ?_
  have start : Ledger.fresh.total.get counter = 0 := by
    rw [Ledger.get_total,Ledger.fresh,Tally.get_zero]
  rw [start,Nat.zero_add]
  cases k with
  | zero => rfl
  | succ k => rw [Ledger.readBy_take_succ,linkOf]

end Capture

namespace Outcome

def statisticsText (request : CommandLine.Request) (counted : Tally) : String :=
  if request.statistics then Text.unlines (counted.lines ++ [""]) else ""

theorem exit_of_ended (arithmetic : Arithmetic) (request : CommandLine.Request) (before : List Entry)
    (recording : Capture.Recording) {ledger : Ledger}
    (ended : Ledger.fresh.run? arithmetic request.options (Run.steps 0 recording.blocks) = some ledger) :
    (ofRecording arithmetic request before recording).exit =
      match recording.ending with
      | .ok () => 0
      | .error _ => 1 := by
  rw [exit_ofRecording]
  refine if_neg fun given_up => ?_
  rw [(aborted_iff _ _ _).mp given_up] at ended
  cases ended

section Recording
variable (arithmetic : Arithmetic) (request : CommandLine.Request) {before : List Entry} (isPcapng : Bool)
  (blocks : List Block) (silent : before.filterMap Entry.text? = [])
  (ended : Ledger.fresh.run? arithmetic request.options (Run.steps 0 blocks) =
    some (Ledger.fresh.run request.options (Run.steps 0 blocks)))
include silent ended

theorem output_of_read :
    (ofRecording arithmetic request before ⟨isPcapng,blocks,.ok ()⟩).output .off =
      String.join ((Ledger.dumps request.options .fresh (Run.steps 0 blocks)).filterMap id) ++
        statisticsText request (Ledger.fresh.run request.options (Run.steps 0 blocks)).flush.settled := by
  have closed : ∀ packets counted, String.join ((closing request packets counted).filterMap Entry.text?) =
      statisticsText request counted := by
    intro packets counted
    rw [closing,statisticsText]
    cases request.statistics
    · rfl
    · exact String.join_cons.trans String.append_empty
  have reports := reports_ofRecording arithmetic request silent isPcapng blocks
  generalize ofRecording arithmetic request before ⟨isPcapng,blocks,.ok ()⟩ = outcome at reports
  cases reports with
  | finished front folded texts => rw [output_off,List.filterMap_append,texts,String.join_append,closed]
  | aborted front given_up texts =>
    rw [given_up] at ended
    cases ended

theorem output_of_fault (fault : Capture.ReadError) :
    (ofRecording arithmetic request before ⟨isPcapng,blocks,.error fault⟩).output .off =
      String.join ((Ledger.dumps request.options .fresh (Run.steps 0 blocks)).filterMap id) := by
  obtain ⟨behind,closed,texts⟩ :=
    texts_ofRecording arithmetic request silent ⟨isPcapng,blocks,.error fault⟩
  rw [output_off,texts,closed (.inr nofun),List.append_nil,Ledger.printed_of_run? _ _ _ ended]

end Recording

end Outcome

/-- What is reported of the first octets of a capture, in which so many records are there as a whole: the dumps of
these, under the numbers they have in the capture, and behind them their statistics, if no further record is begun,
and nothing else otherwise. -/
structure CutShort (request : CommandLine.Request) (capture : Capture.Pcap.Savefile) (n k : Nat)
    (result : Nat × String) : Prop where
  cut : capture.CutAt n k
  ends : result.1 = 0 ∧ (∃ i ≤ capture.entries.length, n = capture.stop i) ∨
    result.1 = 1 ∧ ∀ i ≤ capture.entries.length, n ≠ capture.stop i
  written : result.2 = String.join (((dumpsOf request.options capture).take k).filterMap id) ++
    if result.1 = 0 then Outcome.statisticsText request (countsOf request.options capture k) else ""

section Execute
variable (reader : Reader) (arithmetic : Arithmetic) {request : CommandLine.Request} {arguments : List String}
  (capture : Capture.Pcap.Savefile) (parsed : CommandLine.parse arguments = .run request)
include parsed

theorem execute_file {find : String → Except Capture.OpenError Capture.Node} {octets : Bytes}
    {recording : Capture.Recording} (found : find request.path = .ok (.file octets))
    (read : Capture.Recording.ofFile reader octets = .ok recording) :
    ∃ before : List Entry, before.filterMap Entry.text? = [] ∧
      execute reader arithmetic (some "off") arguments find =
        ((Outcome.ofRecording arithmetic request before recording).exit,
          (Outcome.ofRecording arithmetic request before recording).output .off) := by
  refine ⟨[Run.note s!"Reading PCAP file: {Text.Quoted.encode request.path}"],rfl,?_⟩
  simp only [execute,Filter.ofText?_off,parsed,Outcome.ofInvocation,found,Outcome.ofNode,Capture.Recording.ofNode,
    read]

theorem exists_cutShort {find : String → Except Capture.OpenError Capture.Node} {n : Nat}
    (found : find request.path = .ok (.file (capture.octets.take n))) (header : 24 ≤ n)
    (inside : n ≤ capture.octets.length) :
    ∃ k, CutShort request capture n k (execute reader arithmetic (some "off") arguments find) := by
  obtain ⟨k,cut,read⟩ := Capture.Recording.ofFile_take reader capture header inside
  obtain ⟨before,silent,executed⟩ := execute_file reader arithmetic parsed found read
  have ended := run?_blocks request.options capture arithmetic k
  refine ⟨k,?_⟩
  rw [executed]
  by_cases between : n = capture.stop k
  · rw [if_pos between]
    have well : (Outcome.ofRecording arithmetic request before ⟨false,capture.blocks k,.ok ()⟩).exit = 0 :=
      Outcome.exit_of_ended arithmetic request before _ ended
    refine ⟨cut,.inl ⟨well,cut.boundary.mp between⟩,?_⟩
    rw [well,Outcome.output_of_read arithmetic request false (capture.blocks k) silent ended,dumps_blocks,
      counted_blocks]
    rfl
  · rw [if_neg between]
    have failed : (Outcome.ofRecording arithmetic request before
        ⟨false,capture.blocks k,.error .unexpectedEof⟩).exit = 1 :=
      Outcome.exit_of_ended arithmetic request before _ ended
    refine ⟨cut,.inr ⟨failed,fun i count same => between (cut.boundary.mpr ⟨i,count,same⟩)⟩,?_⟩
    rw [failed,Outcome.output_of_fault arithmetic request false (capture.blocks k) silent ended,dumps_blocks]
    exact String.append_empty.symm

/-- A capture may be cut at any octet behind its header: what is there as a whole is reported, and what was dumped
is the first that is dumped of the whole capture. -/
theorem execute_take {find findAll : String → Except Capture.OpenError Capture.Node} {n : Nat}
    (found : find request.path = .ok (.file (capture.octets.take n)))
    (found_all : findAll request.path = .ok (.file capture.octets))
    (header : 24 ≤ n) (inside : n ≤ capture.octets.length) :
    (∃ k, CutShort request capture n k (execute reader arithmetic (some "off") arguments find)) ∧
      CutShort request capture capture.octets.length capture.entries.length
        (execute reader arithmetic (some "off") arguments findAll) ∧
      (request.statistics = false ∨ (execute reader arithmetic (some "off") arguments find).1 = 1 →
        ∃ rest, (execute reader arithmetic (some "off") arguments findAll).2 =
          (execute reader arithmetic (some "off") arguments find).2 ++ rest) := by
  have uncut : findAll request.path = .ok (.file (capture.octets.take capture.octets.length)) := by
    rw [List.take_length]
    exact found_all
  obtain ⟨k,short⟩ := exists_cutShort reader arithmetic capture parsed found header inside
  obtain ⟨all,whole⟩ := exists_cutShort reader arithmetic capture parsed uncut (header.trans inside) (Nat.le_refl _)
  obtain rfl := whole.cut.all
  refine ⟨⟨k,short⟩,whole,fun unclosed => ?_⟩
  have dumped : (execute reader arithmetic (some "off") arguments find).2 =
      String.join (((dumpsOf request.options capture).take k).filterMap id) := by
    rw [short.written]
    rcases unclosed with unasked | failed
    · simp only [Outcome.statisticsText,unasked,Bool.false_eq_true,if_false,ite_self]
      exact String.append_empty
    · rw [failed]
      exact String.append_empty
  obtain ⟨more,upto⟩ := Nat.exists_eq_add_of_le short.cut.count
  rw [whole.written,dumped,upto,List.take_add,List.filterMap_append,String.join_append,String.append_assoc]
  exact ⟨_,rfl⟩

end Execute

theorem plainCookieAck_fits : 16 + Outcome.plainCookieAck.length < Capture.capacity := by decide

/-- The modified format, in which the heads are longer, with two records. -/
def twoRecords : Capture.Pcap.Savefile where
  layout := ⟨.little, 8⟩
  magic := 0xA1B2CD34
  known := .inr ⟨rfl,rfl⟩
  details := [2, 0, 4, 0, 0, 0, 0, 0, 0, 0, 0, 0, 0, 0, 4, 0]
  sixteen := rfl
  network := 101
  entries :=
    [⟨⟨1700000000, 0, 36, Outcome.plainCookieAck, plainCookieAck_fits⟩, [2, 0, 0, 0, 0, 8, 0, 0], rfl, by decide⟩,
      ⟨⟨1700000001, 0, 36, Outcome.plainCookieAck, plainCookieAck_fits⟩, [2, 0, 0, 0, 0, 8, 0, 0], rfl, by decide⟩]

/-- The cut is within the head of the second record. -/
theorem execute_take_twoRecords :
    (∃ k, CutShort ⟨"a", { dump := true }, false⟩ twoRecords 100 k
        (execute Capture.Stream.reader .checked (some "off") ["-p", "a", "-d"] fun _ =>
          .ok (.file (twoRecords.octets.take 100)))) ∧
      CutShort ⟨"a", { dump := true }, false⟩ twoRecords 144 2
        (execute Capture.Stream.reader .checked (some "off") ["-p", "a", "-d"] fun _ =>
          .ok (.file twoRecords.octets)) ∧
      ∃ rest,
        (execute Capture.Stream.reader .checked (some "off") ["-p", "a", "-d"] fun _ =>
            .ok (.file twoRecords.octets)).2 =
          (execute Capture.Stream.reader .checked (some "off") ["-p", "a", "-d"] fun _ =>
            .ok (.file (twoRecords.octets.take 100))).2 ++ rest := by
  have parsed : CommandLine.parse ["-p", "a", "-d"] = .run ⟨"a", { dump := true }, false⟩ := by decide +kernel
  have size : twoRecords.octets.length = 144 := by decide +kernel
  have inside : 100 ≤ twoRecords.octets.length := by
    rw [size]
    decide
  obtain ⟨short,whole,front⟩ := @execute_take Capture.Stream.reader .checked _ _ twoRecords parsed
    (fun _ => .ok (.file (twoRecords.octets.take 100))) (fun _ => .ok (.file twoRecords.octets)) 100 rfl rfl
    (by decide) inside
  rw [size] at whole
  exact ⟨short,whole,front (.inl rfl)⟩

end Sctp.Report
