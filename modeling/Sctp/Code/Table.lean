import Sctp.Text.Radix

/-! A registry of numeric codes and their names. A code is written as its name, or in hexadecimal after
`0x` when the registry has none for it; either spelling can be read back. -/
namespace Sctp

structure CodeTable where
  title : String
  bound : Nat
  entries : List (Nat × String)
  /-- The code of a field that nothing has set. -/
  initial : Nat := 0

namespace CodeTable

def name? (table : CodeTable) (code : Nat) : Option String :=
  (table.entries.find? fun entry => entry.1 == code).map Prod.snd

def code? (table : CodeTable) (name : String) : Option Nat :=
  (table.entries.find? fun entry => entry.2 == name).map Prod.fst

def isKnown (table : CodeTable) (code : Nat) : Bool := (table.name? code).isSome

def text (table : CodeTable) (code : Nat) : String :=
  match table.name? code with
  | some name => name
  | none => "0x" ++ Text.hex code

/-- A code given as a number: every number that the field can hold. -/
def ofNumber? (table : CodeTable) (n : Int) : Option Nat :=
  if 0 ≤ n ∧ n < table.bound then some n.toNat else none

/-- The number spelt by `0x`, at most one plus sign, and one or more hexadecimal digits. -/
def hexSpelling? : List Char → Option Nat
  | '0' :: 'x' :: '+' :: digits => Text.number? 16 Text.hexDigit? digits
  | '0' :: 'x' :: digits => Text.number? 16 Text.hexDigit? digits
  | _ => none

/-- A code given as text: a name of the registry, or a hexadecimal number that the field can hold. -/
def ofText? (table : CodeTable) (spelling : String) : Option Nat :=
  match table.code? spelling with
  | some code => some code
  | none => (hexSpelling? spelling.toList).filter (· < table.bound)

def rejection (table : CodeTable) (spelling : String) : String := s!"unknown {table.title}: {spelling}"

def read (table : CodeTable) (spelling : String) : Except String Nat :=
  match table.ofText? spelling with
  | some code => .ok code
  | none => .error (table.rejection spelling)

end CodeTable

end Sctp
