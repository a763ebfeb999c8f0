import Sctp.Proofs.CaptureRun

/-! The reading of a file as turns of a loop. A turn takes a block of at least twelve octets out of the buffer, or asks
the file for more, which gives some octets or shows the end of the file; no matter in which portions the file gives
them, each turn makes the window less, so that there are no more turns than three for each octet and one
(`Turns.weight_le`). The main statement is `Outcome.ofNode_ends`: on every file the loop comes to its end, or the run
is given up over a packet. -/
namespace Sctp.Capture

namespace Reader
variable {reader : Reader}

/-- A block is taken, or the buffer is filled up since the next block is not all in it. -/
inductive Turn (reader : Reader) (state : reader.State) : reader.State → Prop
  | take (later : reader.State) (value : Block) (piece rest : Bytes)
    (stepped : reader.step state = .yield value later) (buffered : (reader.window state).buffered = piece ++ rest)
    (size : 12 ≤ piece.length) (left : reader.window later = { reader.window state with buffered := rest }) :
    Turn reader state later
  | fill (stepped : reader.step state = .refill (reader.refill state))
    (fills : (reader.window state).Fills (reader.window (reader.refill state))) :
    Turn reader state (reader.refill state)

/-- So many turns, one after another. -/
inductive Turns (reader : Reader) : Nat → reader.State → reader.State → Prop
  | none (state : reader.State) : Turns reader 0 state state
  | turn (n : Nat) (first next last : reader.State) (turn : reader.Turn first next)
    (others : Turns reader n next last) : Turns reader (n + 1) first last

theorem Turn.weight_lt {state later : reader.State} (turn : reader.Turn state later) :
    (reader.window later).weight < (reader.window state).weight := by
  cases turn with
  | take later value piece rest stepped buffered size left => exact weight_of_yield stepped
  | fill stepped fills => exact fills.weight_lt

/-- Once a read has shown the end of the file, nothing of it is unread. -/
def Seen (reader : Reader) (state : reader.State) : Prop :=
  (reader.window state).ended = true → (reader.window state).unread = []

theorem Turn.seen {state later : reader.State} (turn : reader.Turn state later) (seen : reader.Seen state) :
    reader.Seen later := by
  cases turn with
  | take later value piece rest stepped buffered size left =>
    rw [Seen,left]
    exact seen
  | fill stepped fills =>
    have holds : (reader.window state).Holds (reader.window state).toList := ⟨rfl,seen⟩
    exact (holds.fills fills).seen

theorem Turns.seen {n : Nat} {first last : reader.State} (turns : reader.Turns n first last)
    (seen : reader.Seen first) : reader.Seen last := by
  induction turns with
  | none state => exact seen
  | turn n first next last turn others ih => exact ih (turn.seen seen)

theorem consumed_of_stop {state : reader.State} (seen : reader.Seen state)
    (stops : reader.step state = .stop (.ok ())) : (reader.window state).toList = [] := by
  have reached := reader.reaches state
  rw [stops] at reached
  cases reached with
  | done nothing ended => rw [Window.toList,nothing,seen ended,List.append_nil]

end Reader

/-- Where the loop starts: behind the header of a file with records, or with the first section header. -/
inductive Opens (reader : Reader) (file : Bytes) : reader.State → Prop
  | pcapng (sections : reader.startsSection (file.take capacity) = true) :
    Opens reader file (reader.start reader.sections (.ofFile file))
  | pcap (layout : Pcap.Layout) (network : Int) (records : Bytes)
    (others : reader.startsSection (file.take capacity) = false)
    (headed : Pcap.header (file.take capacity) = .ok (layout,network,records)) :
    Opens reader file (reader.start (reader.records layout) ⟨records,file.drop capacity,file.isEmpty⟩)

namespace Opens

variable {reader : Reader} {file : Bytes} {start : reader.State}

theorem seen (opens : Opens reader file start) : reader.Seen start := by
  have seen := (Window.Holds.ofFile file).seen
  cases opens with
  | pcapng sections =>
    rw [Reader.Seen,reader.window_start]
    exact seen
  | pcap layout network records others headed =>
    rw [Reader.Seen,reader.window_start]
    exact seen

end Opens

end Sctp.Capture

namespace Sctp.Report.Outcome

open Capture (Arithmetic Opens Reader Recording ReadError FormatError)

/-- How the run over a file ends: the file is of neither format, or after finitely many turns the loop has come on an
error, or else to the end of the file with all of it read. Where arithmetic wraps there is no other end; where it is
checked the loop may have come before that to a packet that is to be dumped and tells a time that overflows. -/
inductive Ends (reader : Reader) (arithmetic : Arithmetic) (request : CommandLine.Request) (file : Bytes) : Nat → Prop
  | unopened (fault : FormatError) (refused : Recording.ofFile reader file = .error fault) :
    Ends reader arithmetic request file 1
  | failed (n : Nat) (start last : reader.State) (fault : ReadError) (opens : Opens reader file start)
    (turns : reader.Turns n start last) (stops : reader.step last = .stop (.error fault)) :
    Ends reader arithmetic request file 1
  | done (n : Nat) (start last : reader.State) (opens : Opens reader file start) (turns : reader.Turns n start last)
    (stops : reader.step last = .stop (.ok ())) (consumed : (reader.window last).toList = []) :
    Ends reader arithmetic request file 0
  | aborted (n : Nat) (start last later : reader.State) (packet : Capture.PacketBlock)
    (opens : Opens reader file start) (turns : reader.Turns n start last)
    (yields : reader.step last = .yield (.packet packet) later) (checked : arithmetic = .checked)
    (dump : request.options.dump = true) (overflows : packet.overflows = true) :
    Ends reader arithmetic request file 101

end Sctp.Report.Outcome
