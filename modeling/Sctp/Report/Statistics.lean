import Sctp.Report.Tally

/-! The statistics at the end of a report. Kinds of chunks that did not occur are left out. -/
namespace Sctp.Report

def kindLabel : ChunkKind → String
  | .data => "DATA"
  | .init => "INIT"
  | .initAck => "INIT ACK"
  | .sack => "SACK"
  | .heartbeat => "HEARTBEAT"
  | .heartbeatAck => "HEARTBEAT ACK"
  | .abort => "ABORT"
  | .shutdown => "SHUTDOWN"
  | .shutdownAck => "SHUTDOWN ACK"
  | .error => "ERROR"
  | .cookieEcho => "COOKIE ECHO"
  | .cookieAck => "COOKIE ACK"
  | .shutdownComplete => "SHUTDOWN COMPLETE"
  | .generic => "Other"

namespace Tally

def kindLine? (tally : Tally) (kind : ChunkKind) : Option String :=
  let count := tally.get (.chunks kind)
  if 0 < count then some s!"  {kindLabel kind}: {count}" else none

def lines (tally : Tally) : List String :=
  ["=== SCTP Statistics ===",
    "",
    "--- General ---",
    s!"Total packets processed: {tally.get .packets}",
    s!"Total bytes processed: {tally.get .octets}",
    s!"SCTP packets: {tally.get .sctp}",
    s!"Non-SCTP or fragmented: {tally.get .notSctp}",
    s!"Filtered by port: {tally.get .filtered}",
    "",
    "--- Errors ---",
    s!"Header errors: {tally.headerErrors}",
    s!"  Too small: {tally.get .tooShort}",
    s!"  Invalid: {tally.get .invalid}",
    s!"  Insufficient length: {tally.get .insufficientLength}",
    s!"SCTP too short: {tally.get .sctpTooShort}",
    s!"Bad checksum: {tally.get .badChecksum}",
    "",
    "--- Chunk Areas ---",
    s!"Trailing bytes: {tally.get .trailing}",
    s!"Bad chunk length: {tally.get .badLength}",
    s!"Truncated chunk: {tally.get .truncated}",
    "",
    "--- Chunks ---",
    s!"Total chunks: {tally.chunks}"]
    ++ ChunkKind.all.filterMap tally.kindLine?

end Tally

end Sctp.Report
