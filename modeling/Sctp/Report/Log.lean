import Sctp.Text.Radix

/-! Log events, their levels, and their text. -/
namespace Sctp.Report

inductive Level
  | error
  | warn
  | info
  | debug
  | trace
  deriving DecidableEq, Repr

namespace Level

def all : List Level := [error, warn, info, debug, trace]

def name : Level → String
  | error => "error"
  | warn => "warn"
  | info => "info"
  | debug => "debug"
  | trace => "trace"

def label : Level → String
  | error => "ERROR"
  | warn => "WARN"
  | info => "INFO"
  | debug => "DEBUG"
  | trace => "TRACE"

def rank : Level → Nat
  | error => 1
  | warn => 2
  | info => 3
  | debug => 4
  | trace => 5

/-- Whether an event of a level is written where events are down to a limit; none are without one. -/
def within (level : Level) (limit : Option Level) : Bool := limit.any (level.rank ≤ ·.rank)

/-- A limit by its name in letters of either case or by its number: 0 is `off`, and the numbers from 1 to 5
are the levels from the most severe on. -/
def limit? (text : String) : Option (Option Level) :=
  let digits := match text.toList with
    | '+' :: digits => digits
    | digits => digits
  match Text.number? 10 Text.decimalDigit? digits with
  | some 0 => some none
  | some number => (all.find? (·.rank == number)).map some
  | none => if text.toLower == "off" then some none else (all.find? (·.name == text.toLower)).map some

end Level

inductive Target
  | run
  | inspection
  | packet
  | chunkArea
  deriving DecidableEq, Repr

def Target.text : Target → String
  | run => "sctp_reader"
  | inspection => "sctp_reader::process"
  | packet => "sctp_strata::packet::sctp"
  | chunkArea => "sctp_strata::packet::sctp::chunk"

structure Event where
  level : Level
  target : Target
  message : String
  fields : List (String × String) := []
  deriving DecidableEq

def Event.line (event : Event) : String :=
  s!"{event.level.label} {event.target.text}: {event.message}"
    ++ String.join (event.fields.map fun field => s!" {field.1}={field.2}")

/-- The message is a field as well. -/
def Event.fieldNames (event : Event) : List String := "message" :: event.fields.map (·.1)

end Sctp.Report
