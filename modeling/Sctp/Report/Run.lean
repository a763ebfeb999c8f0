import Sctp.Capture.Recording
import Sctp.Report.CommandLine
import Sctp.Report.Filter
import Sctp.Report.Ledger
import Sctp.Report.Statistics
import Sctp.Text.Quoted

/-! A whole run over a capture: the blocks in file order move the ledger and give entries, which are
texts and log events in the order they are written. A capture that cannot be read to its end yields the
entries up to there and an exit code of 1, and one over which the run is given up yields an exit code of 101. -/
namespace Sctp.Report

inductive Entry
  | text (text : String)
  | event (event : Event)
  deriving DecidableEq

def Entry.render (filter : Filter) : Entry → String
  | .text written => written
  | .event logged => if filter.admits logged then logged.line ++ "\n" else ""

namespace Run

def note (message : String) : Entry := .event ⟨.info, .run, message, []⟩

structure State where
  ledger : Ledger
  packets : Nat
  deriving DecidableEq

def State.start : State := ⟨.fresh, 0⟩

def linkEvent (code : Int) : Event :=
  match LinkType.ofCode? code with
  | some link => ⟨.info, .run, s!"Link type {link.name} (Linktype({code}))", []⟩
  | none => ⟨.warn, .run, s!"Unsupported link type Linktype({code}), guessing from the first packet", []⟩

/-- How far a run has come: its state, what it has written, and whether it was given up. -/
structure Progress where
  state : State
  entries : List Entry
  aborted : Bool
  deriving DecidableEq

def Progress.behind (entries : List Entry) (progress : Progress) : Progress :=
  { progress with entries := entries ++ progress.entries }

/-- A packet that the run is given up over is the last one; what is logged of it is written before that. -/
def blocks (arithmetic : Capture.Arithmetic) (options : Options) (state : State) : List Capture.Block → Progress
  | [] => ⟨state, [], false⟩
  | .linkType code :: rest =>
    (blocks arithmetic options { state with ledger := state.ledger.setLink (LinkType.ofCode? code) } rest).behind
      [.event (linkEvent code)]
  | .packet block :: rest =>
    let number := state.packets + 1
    let logged := ((state.ledger.verdict options block).events options number).map .event
    match state.ledger.process? arithmetic options number block with
    | none => ⟨state, logged, true⟩
    | some (ledger, dump) =>
      (blocks arithmetic options ⟨ledger, number⟩ rest).behind (logged ++ (dump.map .text).toList)
  | .other :: rest => blocks arithmetic options state rest

end Run

structure Outcome where
  exit : Nat
  entries : List Entry
  deriving DecidableEq

namespace Outcome

def failed (entries : List Entry) (reason : String) : Outcome where
  exit := 1
  entries := entries ++ [.event ⟨.error, .run, s!"Failed to process PCAP file: {reason}", []⟩]

def aborted (entries : List Entry) : Outcome := ⟨101, entries⟩

def output (outcome : Outcome) (filter : Filter) : String :=
  String.join (outcome.entries.map (Entry.render filter))

def ofRecording (arithmetic : Capture.Arithmetic) (request : CommandLine.Request) (before : List Entry)
    (recording : Capture.Recording) : Outcome :=
  let detected := if recording.isPcapng then [Run.note "Detected PCAPNG format"] else []
  let reached := Run.blocks arithmetic request.options .start recording.blocks
  let entries := before ++ detected ++ reached.entries
  if reached.aborted then aborted entries
  else match recording.ending with
    | .error fault =>
      let format := if recording.isPcapng then "PCAPNG" else "PCAP"
      failed entries s!"Error reading {format}: {fault.text}"
    | .ok () =>
      let statistics := Text.unlines (reached.state.ledger.flush.settled.lines ++ [""])
      { exit := 0
        entries :=
          entries ++ [Run.note s!"Total packets processed: {reached.state.packets}"]
            ++ (if request.statistics then [.text statistics] else [])
            ++ [Run.note "PCAP processing completed!"] }

def ofNode (reader : Capture.Reader) (arithmetic : Capture.Arithmetic) (request : CommandLine.Request)
    (node : Except Capture.OpenError Capture.Node) : Outcome :=
  let before := [Run.note s!"Reading PCAP file: {Text.Quoted.encode request.path}"]
  match node with
  | .error fault => failed before s!"Failed to open {Text.Quoted.encode request.path}: {fault.text}"
  | .ok node =>
    match Capture.Recording.ofNode reader node with
    | .error fault => failed before s!"Failed to create PCAP reader: {fault.text}"
    | .ok recording => ofRecording arithmetic request before recording

/-- A command line that is not understood ends with exit code 2 and writes nothing. -/
def ofInvocation (reader : Capture.Reader) (arithmetic : Capture.Arithmetic) (invocation : CommandLine.Invocation)
    (find : String → Except Capture.OpenError Capture.Node) : Outcome :=
  match invocation with
  | .run request => ofNode reader arithmetic request (find request.path)
  | .help => ⟨0, [.text (Text.unlines CommandLine.helpLines)]⟩
  | .refused => ⟨2, []⟩

end Outcome

/-- The exit code and the output for arguments and a text that says which events are written. Where that text
splits a character, nothing is run. -/
def execute (reader : Capture.Reader) (arithmetic : Capture.Arithmetic) (logText : Option String)
    (arguments : List String) (find : String → Except Capture.OpenError Capture.Node) : Nat × String :=
  match Filter.ofText? logText with
  | none => (101, "")
  | some filter =>
    let outcome := Outcome.ofInvocation reader arithmetic (CommandLine.parse arguments) find
    (outcome.exit, outcome.output filter)

end Sctp.Report
