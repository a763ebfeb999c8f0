import Sctp.Report.Verdict

/-! The running state of a report: the link type in force, and two tallies. Packets are counted in the
current tally, which is added to the settled one and starts again at zero after every 1024 packets, or
when a flush is asked for. -/
namespace Sctp.Report

structure Ledger where
  link : Option LinkType
  current : Tally
  settled : Tally
  deriving DecidableEq

namespace Ledger

def fresh : Ledger := ⟨none, .zero, .zero⟩

/-- Packets after which the current tally is settled. -/
def interval : Nat := 1024

def isDue (tally : Tally) : Bool := tally.get .packets % interval == 0

def flush (ledger : Ledger) : Ledger :=
  { ledger with current := .zero, settled := ledger.settled.add ledger.current }

def settleIfDue (ledger : Ledger) : Ledger := if isDue ledger.current then ledger.flush else ledger

def setLink (ledger : Ledger) (link : Option LinkType) : Ledger := { ledger with link := link }

/-- The link type for a frame: the one in force, or else what the frame looks like. -/
def linkFor (ledger : Ledger) (block : Capture.PacketBlock) : LinkType :=
  ledger.link.getD (.guess block.data)

def verdict (ledger : Ledger) (options : Options) (block : Capture.PacketBlock) : Verdict :=
  .ofFrame options.port (ledger.linkFor block) block.data

def count (options : Options) (block : Capture.PacketBlock) (verdict : Verdict) (tally : Tally) : Tally :=
  (verdict.charges options).foldl (fun tally counter => tally.bump counter 1)
    ((tally.bump .packets 1).bump .octets block.capturedLength)

/-- The ledger after one more packet; a link type that was guessed stays in force. -/
def enter (ledger : Ledger) (options : Options) (block : Capture.PacketBlock) : Ledger :=
  { ledger with
    link := some (ledger.linkFor block)
    current := count options block (ledger.verdict options block) ledger.current }.settleIfDue

/-- One more packet is counted and has its dump, unless the run is given up over that. -/
def process? (ledger : Ledger) (arithmetic : Capture.Arithmetic) (options : Options) (number : Nat)
    (block : Capture.PacketBlock) : Option (Ledger × Option String) :=
  let verdict := ledger.verdict options block
  if verdict.aborts arithmetic options block then none
  else some (ledger.enter options block, verdict.dump? options number block)

end Ledger

end Sctp.Report
