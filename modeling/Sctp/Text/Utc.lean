import Sctp.Text.Radix

/-! An instant after the start of 1970 as a date and a time of day in UTC. Years and months are
counted off from the front, so that the text can be read back against the calendar. -/
namespace Sctp.Text.Utc

structure Date where
  year : Nat
  month : Nat
  day : Nat
  deriving DecidableEq, Repr

def isLeap (year : Nat) : Bool := year % 4 == 0 && (year % 100 != 0 || year % 400 == 0)

def yearLength (year : Nat) : Nat := if isLeap year then 366 else 365

def monthLengths (year : Nat) : List Nat :=
  [31, if isLeap year then 29 else 28, 31, 30, 31, 30, 31, 31, 30, 31, 30, 31]

/-- The month of a year, counted from `month`, in which the given day falls, and its day there. -/
def monthOf (month : Nat) : List Nat → Nat → Nat × Nat
  | [], day => (month, day + 1)
  | length :: later, day => if day < length then (month, day + 1) else monthOf (month + 1) later (day - length)

theorem yearLength_pos (year : Nat) : 0 < yearLength year := by
  unfold yearLength
  split <;> decide

def dateFrom (year days : Nat) : Date :=
  if days < yearLength year then
    let (month, day) := monthOf 1 (monthLengths year) days
    ⟨year, month, day⟩
  else dateFrom (year + 1) (days - yearLength year)
  termination_by days
  decreasing_by
    have := yearLength_pos year
    omega

def dateOf (days : Nat) : Date := dateFrom 1970 days

/-- Year, month, day and time of day down to the microsecond; finer digits are cut. -/
def render (nanoseconds : Nat) : String :=
  let seconds := nanoseconds / 1000000000
  let micros := nanoseconds % 1000000000 / 1000
  let date := dateOf (seconds / 86400)
  let hour := decimalWide 2 (seconds % 86400 / 3600)
  let minute := decimalWide 2 (seconds % 3600 / 60)
  let second := decimalWide 2 (seconds % 60)
  let year := decimalWide 4 date.year
  let month := decimalWide 2 date.month
  let day := decimalWide 2 date.day
  s!"{year}-{month}-{day} {hour}:{minute}:{second}.{decimalWide 6 micros} UTC"

end Sctp.Text.Utc
