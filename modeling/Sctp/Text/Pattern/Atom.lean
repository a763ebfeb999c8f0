import Sctp.Text.Ranges
import Sctp.Text.Radix

/-! The single parts of patterns: characters, families of characters, and places between characters. A
pattern is a regular expression that is about text, so it must not match octets that are none, and there are
no tables of characters by property or by case: what needs one of these is refused. -/
namespace Sctp.Text.Pattern

/-- How a part of a pattern is read; at the start only `unicode` is on. -/
structure Modes where
  ignoreCase : Bool := false
  unicode : Bool := true
  extended : Bool := false
  deriving DecidableEq

namespace Modes

/-- The mode of a letter is switched; some letters change nothing about what is well formed. -/
def switch (modes : Modes) (on : Bool) : Char → Modes
  | 'i' => { modes with ignoreCase := on }
  | 'u' => { modes with unicode := on }
  | 'x' => { modes with extended := on }
  | _ => modes

/-- Without the blanks and comments in front; a comment goes from a number sign to the end of its line. -/
def dropSpace (inComment : Bool) : List Char → List Char
  | [] => []
  | c :: rest =>
    if inComment then dropSpace (c != '\n') rest
    else if c == '#' then dropSpace true rest
    else if isBlank c then dropSpace false rest
    else c :: rest

/-- What is to be read next: extended patterns may have blanks and comments in between. -/
def skip (modes : Modes) (text : List Char) : List Char :=
  if modes.extended then dropSpace false text else text

/-- The character that comes after blanks, and a number sign does not count for the one behind it. -/
def peek (modes : Modes) (text : List Char) : Option Char :=
  if modes.extended then
    match text.dropWhile isBlank with
    | '#' :: comment => (comment.dropWhile isBlank).head?
    | seen => seen.head?
  else text.head?

end Modes

inductive Atom
  /-- A character, which may be given as an octet by two hexadecimal digits. -/
  | literal (c : Char) (asOctet : Bool)
  /-- The digits, blanks or word characters, or all characters but these. -/
  | family (negated : Bool)
  /-- A place between characters, which may be told by the word characters around it. -/
  | place (byWord : Bool)
  deriving DecidableEq

namespace Atom

/-- Behind a backslash: the letters that announce a number, with its count of hexadecimal digits. -/
def hexLength? : Char → Option Nat
  | 'x' => some 2
  | 'u' => some 4
  | 'U' => some 8
  | _ => none

/-- Behind a backslash: the letters that stand for control characters. -/
def control? : Char → Option Char
  | 'a' => some '\x07'
  | 't' => some '\t'
  | 'n' => some '\n'
  | 'v' => some '\x0b'
  | 'f' => some '\x0c'
  | 'r' => some '\r'
  | _ => none

def hexNumber? (modes : Modes) : Nat → Nat → List Char → Option (Nat × List Char)
  | 0, value, text => some (value, text)
  | count + 1, value, text =>
    match modes.skip text with
    | [] => none
    | c :: rest =>
      match hexDigit? c with
      | none => none
      | some digit => hexNumber? modes count (value * 16 + digit) rest

/-- What a backslash in front of the text makes of it. The ASCII characters that are neither letters nor
digits stand for themselves, but for the angles at the ends of words. -/
def escaped? (modes : Modes) : List Char → Option (Atom × List Char)
  | [] => none
  | c :: rest =>
    match hexLength? c, control? c with
    | some count, _ =>
      match hexNumber? modes count 0 rest with
      | none => none
      | some (code, rest) =>
        if code.isValidChar then some (literal (Char.ofNat code) (count == 2), rest) else none
    | none, some control => some (literal control false, rest)
    | none, none =>
      if ['d', 's', 'w'].contains c then some (family false, rest)
      else if ['D', 'S', 'W'].contains c then some (family true, rest)
      else if ['b', 'B', '<', '>'].contains c then some (place true, rest)
      else if ['A', 'z'].contains c then some (place false, rest)
      else if c.toNat < 0x80 && !c.isAlphanum then some (literal c false, rest)
      else none

def read? (modes : Modes) (c : Char) (rest : List Char) : Option (Atom × List Char) :=
  if c == '\\' then escaped? modes rest else some (literal c false, rest)

/-- Whether an atom may stand by itself: case and the properties of characters are only known of ASCII, and
an octet beyond it is no text. -/
def isAllowed (modes : Modes) : Atom → Bool
  | literal c asOctet => if modes.unicode then !modes.ignoreCase else !(asOctet && 0x80 ≤ c.toNat)
  | family negated => !modes.unicode && !negated
  | place byWord => !(modes.unicode && byWord)

/-- Whether an atom may be a member of a set; a set that is not of characters is one of ASCII. -/
def isMember (modes : Modes) : Atom → Bool
  | literal c _ => if modes.unicode then !modes.ignoreCase else c.toNat < 0x80
  | family negated => !modes.unicode && !negated
  | place _ => false

end Atom

end Sctp.Text.Pattern
