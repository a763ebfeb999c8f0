/-! Numbers in text: lower-case hexadecimal, and digits brought to a least width. -/
namespace Sctp.Text

/-- The text behind enough fill characters to be `width` long; a longer text is not cut. -/
def padLeft (fill : Char) (width : Nat) (text : String) : String :=
  String.ofList (List.leftpad width fill text.toList)

/-- Hexadecimal with no leading zero but for zero itself. -/
def hex (n : Nat) : String := String.ofList (Nat.toDigits 16 n)

def hexWide (width n : Nat) : String := padLeft '0' width (hex n)

def decimalWide (width n : Nat) : String := padLeft '0' width (toString n)

def hexDigit? (c : Char) : Option Nat :=
  if '0' ≤ c ∧ c ≤ '9' then some (c.toNat - '0'.toNat)
  else if 'a' ≤ c ∧ c ≤ 'f' then some (c.toNat - 'a'.toNat + 10)
  else if 'A' ≤ c ∧ c ≤ 'F' then some (c.toNat - 'A'.toNat + 10)
  else none

/-- The value of a decimal digit; only the ten of ASCII count. -/
def decimalDigit? (c : Char) : Option Nat :=
  if '0' ≤ c ∧ c ≤ '9' then some (c.toNat - '0'.toNat) else none

/-- The number that the digits spell, `none` when one of them is no digit or there is none at all. -/
def number? (base : Nat) (digit? : Char → Option Nat) (digits : List Char) : Option Nat :=
  if digits.isEmpty then none
  else digits.foldlM (fun value c => (digit? c).map (value * base + ·)) 0

end Sctp.Text
