import Sctp.Report.Directive

/-! Log filters. A filter is a list of directives with commas between them; for each event the most specific
of the directives decides, and of equally specific ones the last. -/
namespace Sctp.Report

structure Filter where
  directives : List Directive
  deriving DecidableEq

namespace Filter

def ofLimit (limit : Option Level) : Filter := ⟨[⟨.everything, limit⟩]⟩

def off : Filter := ofLimit none

def info : Filter := ofLimit (some .info)

def governing? (filter : Filter) (event : Event) : Option Directive :=
  (filter.directives.filter (·.scope.holds event)).foldl (fun best directive =>
    if best.all fun best => directive.scope.outranks best.scope then some directive else best) none

def admits (filter : Filter) (event : Event) : Bool :=
  (filter.governing? event).any fun directive => event.level.within directive.limit

theorem admits_ofLimit (limit : Option Level) (event : Event) :
    (ofLimit limit).admits event = event.level.within limit := by
  simp [admits, governing?, ofLimit, Scope.everything, Scope.holds]

/-- Reads the directives from left to right, so the first fault decides. -/
def read (text : String) : Except DirectiveFault Filter :=
  return ⟨← ((text.splitOn ",").filter (!·.isEmpty)).mapM Directive.read⟩

/-- The filter for a text, or for none. A malformed text counts as none; `none` is the answer where a
character would be split. -/
def ofText? : Option String → Option Filter
  | none => some info
  | some text =>
    match read text with
    | .ok filter => some filter
    | .error .malformed => some info
    | .error .splitCharacter => none

end Filter

end Sctp.Report
