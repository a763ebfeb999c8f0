import Sctp.Capture.Stream
import Sctp.Proofs.Overflow
import Sctp.Proofs.Streaming
import Sctp.Report.Run

/-! A run over a whole capture. The blocks of the capture are steps of a ledger, in file order and with the
packets numbered from one (`Run.steps`), and what a run writes, counts and notes is what these steps come
to, or what they come to before the run is given up. The main statement is `Outcome.ofNode_of_written`. -/
namespace Sctp.Report

open Capture (Arithmetic Block PacketBlock Reader)

/-- The text that is written to the output, which log events are not part of. -/
def Entry.text? : Entry → Option String
  | text written => some written
  | event _ => none

namespace Run

def packet? : Block → Option PacketBlock
  | .packet block => some block
  | .linkType _ | .other => none

def packetCount (blocks : List Block) : Nat := (blocks.filterMap packet?).length

/-- The steps of a ledger for the blocks in their order, where so many packets came before: a link type is
set, a packet has the next number, and other blocks are no step. -/
def steps (before : Nat) : List Block → List Ledger.Step
  | [] => []
  | .linkType code :: rest => .link (LinkType.ofCode? code) :: steps before rest
  | .packet block :: rest => .packet (before + 1) block :: steps (before + 1) rest
  | .other :: rest => steps before rest

theorem mem_steps {before number : Nat} {blocks : List Block} {block : PacketBlock}
    (there : .packet number block ∈ steps before blocks) : .packet block ∈ blocks := by
  induction blocks generalizing before with
  | nil => cases there
  | cons first rest ih =>
    cases first with
    | linkType code =>
      obtain same | later := List.mem_cons.mp there
      · cases same
      · exact List.mem_cons_of_mem _ (ih later)
    | packet first =>
      obtain same | later := List.mem_cons.mp there
      · obtain ⟨-,rfl⟩ := Ledger.Step.packet.inj same
        exact List.mem_cons_self
      · exact List.mem_cons_of_mem _ (ih later)
    | other => exact List.mem_cons_of_mem _ (ih there)

/-- A run over packets none of which tells a time that overflows comes to its end in any build. -/
theorem run?_headed {Item : Type} (arithmetic : Arithmetic) (options : Options) (block : Item → PacketBlock)
    (fits : ∀ item, (block item).overflows = false) (code : Int) (items : List Item) :
    Ledger.fresh.run? arithmetic options (steps 0 (.linkType code :: items.map fun item => .packet (block item))) =
      some (Ledger.fresh.run options (steps 0 (.linkType code :: items.map fun item => .packet (block item)))) := by
  refine Ledger.run?_eq_run arithmetic options .fresh fun _ _ => Ledger.not_overflows_of_packets options ?_ none
  intro number packet there
  obtain same | there := List.mem_cons.mp (mem_steps there)
  · cases same
  · obtain ⟨item,-,same⟩ := List.mem_map.mp there
    rw [← Block.packet.inj same]
    exact fits item

/-- Log events are no text. -/
theorem texts_events (events : List Event) : (events.map Entry.event).filterMap Entry.text? = [] := by
  rw [List.filterMap_map]
  exact List.filterMap_eq_nil_iff.mpr fun _ _ => rfl

/-- What a run over blocks comes to. It is given up where the steps are, and otherwise it has the ledger of the
steps and has counted the packets; either way it has written the dumps of the steps. -/
structure Follows (arithmetic : Arithmetic) (options : Options) (state : State) (blocks : List Block)
    (reached : Progress) : Prop where
  folded : state.ledger.run? arithmetic options (steps state.packets blocks) =
    if reached.aborted then none else some reached.state.ledger
  packets : reached.aborted = false → reached.state.packets = state.packets + packetCount blocks
  texts : reached.entries.filterMap Entry.text? =
    (state.ledger.printed arithmetic options (steps state.packets blocks)).filterMap id

/-- Entries that are no text may stand before a run. -/
theorem Follows.behind {arithmetic : Arithmetic} {options : Options} {state : State} {blocks : List Block}
    {reached : Progress} {entries : List Entry} (follows : Follows arithmetic options state blocks reached)
    (silent : entries.filterMap Entry.text? = []) :
    Follows arithmetic options state blocks (reached.behind entries) where
  folded := follows.folded
  packets := follows.packets
  texts := by
    rw [Progress.behind,List.filterMap_append,silent]
    exact follows.texts

theorem follows (arithmetic : Arithmetic) (options : Options) (state : State) (blocks : List Block) :
    Follows arithmetic options state blocks (Run.blocks arithmetic options state blocks) := by
  induction blocks generalizing state with
  | nil => exact ⟨rfl,fun _ => rfl,rfl⟩
  | cons block rest ih =>
    cases block with
    | linkType code =>
      obtain ⟨folded,packets,texts⟩ := ih { state with ledger := state.ledger.setLink (LinkType.ofCode? code) }
      exact Follows.behind ⟨folded,packets,texts⟩ rfl
    | other =>
      obtain ⟨folded,packets,texts⟩ := ih state
      exact ⟨folded,packets,texts⟩
    | packet block =>
      have silent := texts_events ((state.ledger.verdict options block).events options (state.packets + 1))
      rw [Run.blocks]
      cases processed : state.ledger.process? arithmetic options (state.packets + 1) block with
      | none =>
        refine ⟨?_,nofun,?_⟩
        · rw [steps,Ledger.run?,Ledger.step?,processed]
          rfl
        · rw [steps,Ledger.printed,processed]
          exact silent
      | some result =>
        obtain ⟨ledger,dump⟩ := result
        obtain ⟨folded,packets,texts⟩ := ih ⟨ledger,state.packets + 1⟩
        refine ⟨?_,?_,?_⟩
        · rw [steps,Ledger.run?,Ledger.step?,processed]
          exact folded
        · intro ended
          refine (packets ended).trans ?_
          change state.packets + 1 + packetCount rest = state.packets + (packetCount rest + 1)
          omega
        · rw [steps,Ledger.printed,processed]
          simp only [Progress.behind,List.filterMap_append,silent,texts,List.nil_append]
          cases dump <;> rfl

end Run

namespace Outcome

/-- What is written behind the last packet: the number of packets, the statistics if they are asked for, and
that all is done. -/
def closing (request : CommandLine.Request) (packets : Nat) (counted : Tally) : List Entry :=
  [Run.note s!"Total packets processed: {packets}"]
    ++ (if request.statistics then [.text (Text.unlines (counted.lines ++ [""]))] else [])
    ++ [Run.note "PCAP processing completed!"]

/-- A run has done what the blocks call for, one after another, and nothing else. It ends well: its texts are
their dumps, and behind these it tells what they were counted as. Or it is given up where the blocks are, with the
dumps up to there. -/
inductive Reports (arithmetic : Arithmetic) (request : CommandLine.Request) (blocks : List Block) : Outcome → Prop
  | finished (front : List Entry)
    (folded : Ledger.fresh.run? arithmetic request.options (Run.steps 0 blocks) =
      some (Ledger.fresh.run request.options (Run.steps 0 blocks)))
    (texts : front.filterMap Entry.text? =
      (Ledger.fresh.dumps request.options (Run.steps 0 blocks)).filterMap id) :
    Reports arithmetic request blocks
      ⟨0,front ++ closing request (Run.packetCount blocks)
        (Ledger.fresh.run request.options (Run.steps 0 blocks)).flush.settled⟩
  | aborted (front : List Entry)
    (folded : Ledger.fresh.run? arithmetic request.options (Run.steps 0 blocks) = none)
    (texts : front.filterMap Entry.text? =
      (Ledger.fresh.printed arithmetic request.options (Run.steps 0 blocks)).filterMap id) :
    Reports arithmetic request blocks (Outcome.aborted front)

theorem exit_ofRecording (arithmetic : Arithmetic) (request : CommandLine.Request) (before : List Entry)
    (recording : Capture.Recording) :
    (ofRecording arithmetic request before recording).exit =
      if (Run.blocks arithmetic request.options .start recording.blocks).aborted then 101
      else match recording.ending with
        | .ok () => 0
        | .error _ => 1 := by
  unfold ofRecording
  dsimp only
  split
  · rfl
  · cases recording.ending with
    | ok nothing => rfl
    | error fault => rfl

theorem aborted_iff (arithmetic : Arithmetic) (options : Options) (blocks : List Block) :
    (Run.blocks arithmetic options .start blocks).aborted = true ↔
      Ledger.fresh.run? arithmetic options (Run.steps 0 blocks) = none := by
  have folded : Ledger.fresh.run? arithmetic options (Run.steps 0 blocks) = _ :=
    (Run.follows arithmetic options .start blocks).folded
  rw [folded,ite_eq_left_iff,Bool.not_eq_true]
  cases (Run.blocks arithmetic options .start blocks).aborted <;> simp

theorem texts_detected (isPcapng : Bool) :
    (if isPcapng then [Run.note "Detected PCAPNG format"] else []).filterMap Entry.text? = [] := by
  cases isPcapng <;> rfl

section Recording
variable (arithmetic : Arithmetic) (request : CommandLine.Request) {before : List Entry}
  (silent : before.filterMap Entry.text? = [])
include silent

theorem reports_ofRecording (isPcapng : Bool) (blocks : List Block) :
    Reports arithmetic request blocks (ofRecording arithmetic request before ⟨isPcapng,blocks,.ok ()⟩) := by
  have follows := Run.follows arithmetic request.options .start blocks
  have texts : (before ++ (if isPcapng then [Run.note "Detected PCAPNG format"] else []) ++
      (Run.blocks arithmetic request.options .start blocks).entries).filterMap Entry.text? =
        (Ledger.fresh.printed arithmetic request.options (Run.steps 0 blocks)).filterMap id := by
    rw [List.filterMap_append,List.filterMap_append,silent,texts_detected]
    exact follows.texts
  have folded : Ledger.fresh.run? arithmetic request.options (Run.steps 0 blocks) = _ := follows.folded
  unfold ofRecording
  dsimp only
  cases given_up : (Run.blocks arithmetic request.options .start blocks).aborted with
  | true =>
    rw [given_up] at folded
    exact .aborted _ folded texts
  | false =>
    have packets := follows.packets given_up
    rw [given_up] at folded
    have counted := Ledger.eq_run_of_run? _ _ _ folded
    rw [Ledger.printed_of_run? _ _ _ folded] at texts
    have finished := Reports.finished _ (folded.trans (congrArg some counted)) texts
    rw [Run.State.start,Nat.zero_add] at packets
    rw [← packets,← counted,closing] at finished
    simp only [List.append_assoc] at finished ⊢
    exact finished

/-- The texts of a run are the dumps of the blocks that could be read, and behind them at most the statistics. -/
theorem texts_ofRecording (recording : Capture.Recording) :
    ∃ behind, (request.statistics = false ∨ recording.ending ≠ .ok () → behind = []) ∧
      (ofRecording arithmetic request before recording).entries.filterMap Entry.text? =
        (Ledger.fresh.printed arithmetic request.options (Run.steps 0 recording.blocks)).filterMap id ++ behind := by
  have texts : (Run.blocks arithmetic request.options .start recording.blocks).entries.filterMap Entry.text? =
      (Ledger.fresh.printed arithmetic request.options (Run.steps 0 recording.blocks)).filterMap id :=
    (Run.follows arithmetic request.options .start recording.blocks).texts
  have detected := texts_detected recording.isPcapng
  unfold ofRecording
  dsimp only
  split
  · refine ⟨[],fun _ => rfl,?_⟩
    simp only [aborted,List.filterMap_append,silent,detected,texts,List.nil_append,List.append_nil]
  · split
    · refine ⟨[],fun _ => rfl,?_⟩
      simp only [failed,List.filterMap_append,silent,detected,texts,List.nil_append]
      rfl
    · rename_i read
      simp only [List.filterMap_append,silent,detected,texts,List.nil_append,List.append_assoc]
      refine ⟨_,?_,rfl⟩
      rintro (unasked | fault)
      · rw [unasked]
        rfl
      · exact absurd read fault

end Recording

/-- A COOKIE ACK over IPv4. -/
def plainCookieAck : Bytes :=
  [0x45, 0, 0, 36, 0, 1, 0x40, 0, 64, 132, 0, 0, 10, 0, 0, 1, 10, 0, 0, 2,
    0x0B, 0x59, 0x0B, 0x5A, 0, 0, 0, 1, 0x58, 0xA5, 0x1C, 0x32, 11, 0, 0, 4]

end Outcome

end Sctp.Report
