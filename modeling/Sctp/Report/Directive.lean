import Sctp.Report.Log
import Sctp.Text.Decimal
import Sctp.Text.Pattern

/-! Directives about which events are written: a directive is for a scope of events, and sets the limit down
to which they are. -/
namespace Sctp.Report

inductive Scope
  /-- Events whose target starts with the given one, and that have the field if one is given. -/
  | events (target : String) (field : Option String)
  /-- Events within spans of work; none are marked here. -/
  | spans
  deriving DecidableEq

namespace Scope

def everything : Scope := events "" none

def holds (scope : Scope) (event : Event) : Bool :=
  match scope with
  | events target field =>
    target.toList.isPrefixOf event.target.text.toList && field.all event.fieldNames.contains
  | spans => false

def rank : Scope → Nat
  | events target field => 2 * target.utf8ByteSize + if field.isSome then 1 else 0
  | spans => 0

def fieldName : Scope → String
  | events _ field => field.getD ""
  | spans => ""

/-- Not less specific than another scope that holds of the same event; between fields the alphabet decides. -/
def outranks (scope other : Scope) : Bool :=
  other.rank < scope.rank || (other.rank == scope.rank && !(scope.fieldName < other.fieldName))

end Scope

inductive DirectiveFault
  | malformed
  /-- A part would start or end between the octets of one character. -/
  | splitCharacter
  deriving DecidableEq, Repr

structure Directive where
  scope : Scope
  limit : Option Level
  deriving DecidableEq

namespace Directive

def part (text : String) (start stop : Nat) : Except DirectiveFault String :=
  if String.Pos.Raw.isValid text ⟨start⟩ && String.Pos.Raw.isValid text ⟨stop⟩ then
    .ok (String.Pos.Raw.extract text ⟨start⟩ ⟨stop⟩)
  else .error .splitCharacter

/-- The first of some marks in what stands at a place: its own place, the mark, and what follows it. -/
def seek? (marks : List Char) (place : Nat) : List Char → Option (Nat × Char × List Char)
  | [] => none
  | c :: rest => if marks.contains c then some (place, c, rest) else seek? marks (place + c.utf8Size) rest

def trimmed (text : String) : List Char :=
  ((text.toList.dropWhile Text.isBlank).reverse.dropWhile Text.isBlank).reverse

def canStart (c : Char) : Bool := ['[', '-', ':', '_'].contains c || Text.isAlphanumeric c

/-- The limit that is all of the text from a place on; with nothing there, all events are written. -/
def limitFrom (text : String) (place : Nat) : Except DirectiveFault (Option Level) := do
  let name ← part text place text.utf8ByteSize
  if name.isEmpty then return some .trace
  match Level.limit? name with
  | none => throw .malformed
  | some limit => return limit

/-- What comes behind brackets: nothing, or an equals sign and a limit. -/
def behindBrackets (text : String) (scope : Scope) (place : Nat) : List Char → Except DirectiveFault Directive
  | [] => return ⟨scope, some .trace⟩
  | '=' :: _ => return ⟨scope, ← limitFrom text (place + 1)⟩
  | _ => throw .malformed

/-- Values are compared with numbers, or else matched with patterns. -/
def isValue (text : List Char) : Bool := Text.Decimal.isNumber text || Text.Pattern.isWellFormed text

/-- The scope of the events with a field, `none` if the field has a value and so is one of a span. -/
def fieldScope (target field : String) : Except DirectiveFault (Option Scope) :=
  if field.isEmpty then throw .malformed
  else match field.splitOn "=" with
    | _ :: value :: _ => if isValue value.toList then return none else throw .malformed
    | _ => return some (.events target (some field))

/-- Brackets hold the name of a span, or a field in braces, or both. -/
def bracketed (text target : String) (place : Nat) (inner : List Char) : Except DirectiveFault Directive :=
  match seek? [']', '\x7b'] place inner with
  | none => throw .malformed
  | some (stop, mark, inner) => do
    let span ← part text place stop
    if mark == ']' then behindBrackets text .spans (stop + 1) inner
    else match seek? ['\x7d'] (stop + 1) inner with
      | none => throw .malformed
      | some (close, _, rest) => do
        let ofField ← fieldScope target (← part text (stop + 1) close)
        match rest with
        | ']' :: rest =>
          behindBrackets text (if span.isEmpty then ofField.getD .spans else .spans) (close + 2) rest
        | _ => throw .malformed

/-- A directive is a limit, or a scope with an equals sign and a limit behind it, or a scope alone that
has all its events written. Its marks are sought in the text without the blanks around it, but its parts are
cut out of the whole text at the same places, so blanks in front of a directive shift all its parts. -/
def read (text : String) : Except DirectiveFault Directive :=
  let body := trimmed text
  if !body.head?.any canStart then throw .malformed
  else match seek? ['=', '['] 0 body with
    | none =>
      return (Level.limit? text).elim ⟨.events text none, some .trace⟩ fun limit => ⟨.everything, limit⟩
    | some (stop, mark, rest) => do
      let target ← part text 0 stop
      if mark == '=' then return ⟨.events target none, ← limitFrom text (stop + 1)⟩
      else bracketed text target (stop + 1) rest

end Directive

end Sctp.Report
