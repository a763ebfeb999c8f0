import Sctp.Report.Verdict
import Sctp.Text.Radix

/-! The command line: which capture to read, and how. Arguments are taken from left to right, and the
first one that cannot stand where it does decides; a request for help ends the reading of arguments. -/
namespace Sctp.Report.CommandLine

structure Request where
  path : String
  options : Options
  statistics : Bool
  deriving DecidableEq

inductive Invocation
  | run (request : Request)
  | help
  | refused
  deriving DecidableEq

inductive Flag
  | dump
  | lazy
  | checksum
  | statistics
  deriving DecidableEq, Repr

inductive Setting
  | path
  | port
  deriving DecidableEq, Repr

structure State where
  flags : List Flag := []
  path : Option String := none
  port : Option UInt16 := none

/-- An option by its name: a switch, one that takes a value, or help. -/
inductive Switch
  | flag (flag : Flag)
  | setting (setting : Setting)
  | help

def Switch.ofLong? (name : String) : Option Switch :=
  match name with
  | "pcap" => some (.setting .path)
  | "dump-packet" => some (.flag .dump)
  | "lazy" => some (.flag .lazy)
  | "port" => some (.setting .port)
  | "checksum" => some (.flag .checksum)
  | "stats" => some (.flag .statistics)
  | "help" => some .help
  | _ => none

def Switch.ofShort? (letter : Char) : Option Switch :=
  match letter with
  | 'p' => some (.setting .path)
  | 'd' => some (.flag .dump)
  | 'l' => some (.flag .lazy)
  | 'c' => some (.flag .checksum)
  | 's' => some (.flag .statistics)
  | 'h' => some .help
  | _ => none

/-- A port number in decimal, with at most one sign; a minus sign leaves only zero possible. -/
def port? (text : String) : Option UInt16 :=
  let parsed := match text.toList with
    | '+' :: digits => Text.number? 10 Text.decimalDigit? digits
    | '-' :: digits => (Text.number? 10 Text.decimalDigit? digits).filter (· == 0)
    | digits => Text.number? 10 Text.decimalDigit? digits
  (parsed.filter (· < 65536)).map UInt16.ofNat

namespace State

/-- No switch may be given twice. -/
def raise (state : State) (flag : Flag) : Option State :=
  if state.flags.contains flag then none else some { state with flags := flag :: state.flags }

/-- No option may be given twice, a path must not be empty, and a port must be a port number. -/
def assign (state : State) (setting : Setting) (value : String) : Option State :=
  match setting with
  | .path =>
    if state.path.isSome || value.isEmpty then none else some { state with path := some value }
  | .port =>
    if state.port.isSome then none else (port? value).map fun port => { state with port := some port }

def finish (state : State) : Invocation :=
  match state.path with
  | none => .refused
  | some path =>
    .run
      { path := path
        options :=
          { dump := state.flags.contains .dump
            lazy := state.flags.contains .lazy
            port := state.port
            checksum := state.flags.contains .checksum }
        statistics := state.flags.contains .statistics }

end State

/-- What a bundle of letters leaves to be done: go on, take the next argument for a value, help, or
refuse. -/
inductive Bundle
  | proceed (state : State)
  | wants (state : State) (setting : Setting)
  | help
  | refused

/-- The letters behind a single hyphen. A letter that takes a value takes the other letters for it, less
an equals sign in front of them. -/
def bundle (state : State) : List Char → Bundle
  | [] => .proceed state
  | letter :: letters =>
    match Switch.ofShort? letter with
    | none => .refused
    | some .help => .help
    | some (.flag flag) =>
      match state.raise flag with
      | none => .refused
      | some state => bundle state letters
    | some (.setting setting) =>
      let attach (value : List Char) : Bundle :=
        (state.assign setting (String.ofList value)).elim .refused .proceed
      match letters with
      | [] => .wants state setting
      | '=' :: value => attach value
      | value => attach value

def isValue (argument : String) : Bool :=
  match argument.toList with
  | ['-'] => true
  | '-' :: _ => false
  | _ => true

/-- The invocation that the arguments make after those that gave the state. -/
def parseFrom (state : State) : List String → Invocation
  | [] => state.finish
  | argument :: rest =>
    let want (state : State) (setting : Setting) : Invocation :=
      match rest with
      | value :: rest =>
        if isValue value then
          match state.assign setting value with
          | none => .refused
          | some state => parseFrom state rest
        else .refused
      | [] => .refused
    match argument.toList with
    | ['-', '-'] => if rest.isEmpty then state.finish else .refused
    | '-' :: '-' :: long =>
      match long.span (· != '=') with
      | (name, []) =>
        match Switch.ofLong? (String.ofList name) with
        | none => .refused
        | some .help => .help
        | some (.flag flag) =>
          match state.raise flag with
          | none => .refused
          | some state => parseFrom state rest
        | some (.setting setting) => want state setting
      | (name, _ :: value) =>
        match Switch.ofLong? (String.ofList name) with
        | some (.setting setting) =>
          match state.assign setting (String.ofList value) with
          | none => .refused
          | some state => parseFrom state rest
        | _ => .refused
    | '-' :: letter :: letters =>
      match bundle state (letter :: letters) with
      | .proceed state => parseFrom state rest
      | .wants state setting => want state setting
      | .help => .help
      | .refused => .refused
    | _ => .refused
  termination_by arguments => arguments.length

def parse (arguments : List String) : Invocation := parseFrom {} arguments

def helpLines : List String :=
  ["Decode the SCTP packets of a PCAP/PCAPNG capture",
    "",
    "Usage: sctp-reader [OPTIONS] --pcap <FILE>",
    "",
    "Options:",
    "  -p, --pcap <FILE>  Path to the PCAP file to read",
    "  -d, --dump-packet  dump every SCTP packet with its chunks",
    "  -l, --lazy         do not decode chunk parameters",
    "      --port <PORT>  only packets with this source or destination port",
    "  -c, --checksum     verify the CRC32c checksum of every SCTP packet",
    "  -s, --stats        print statistics at the end",
    "  -h, --help         Print help"]

end Sctp.Report.CommandLine
