import Sctp.Text.Pattern.Atom

/-! Sets of characters in square brackets. Their members are characters, ranges, named classes and further
sets; between members an operator combines the set on its left with the one on its right. -/
namespace Sctp.Text.Pattern

/-- Parts in a row, by their count and the height of the highest, where height is depth of nesting. -/
structure Row where
  count : Nat := 0
  highest : Nat := 0
  deriving DecidableEq

namespace Row

def add (row : Row) (height : Nat) : Row := ⟨row.count + 1, max row.highest height⟩

def raise (row : Row) (height : Nat) : Row := ⟨row.count, max row.highest height⟩

/-- Two or more parts are nested in the row itself. -/
def height (row : Row) : Nat := row.highest + if 2 ≤ row.count then 1 else 0

end Row

namespace Bracket

def classNames : List String :=
  ["alnum", "alpha", "ascii", "blank", "cntrl", "digit", "graph", "lower", "print", "punct", "space", "upper",
    "word", "xdigit"]

/-- A named class without its first bracket: whether it is negated, and what follows it. -/
def namedClass? : List Char → Option (Bool × List Char)
  | ':' :: '^' :: rest => (named rest).map (true, ·)
  | ':' :: rest => (named rest).map (false, ·)
  | _ => none
where
  named (text : List Char) : Option (List Char) :=
    match text.span (· != ':') with
    | (name, ':' :: ']' :: rest) => if classNames.contains (String.ofList name) then some rest else none
    | _ => none

/-- The members behind an opening bracket. Negated sets of octets have some that are no text. -/
def opened? (modes : Modes) (text : List Char) : Option (List Char) :=
  match modes.skip text with
  | '^' :: rest => if modes.unicode then some rest else none
  | rest => some rest

/-- What follows a character or range that starts with the given character; a hyphen in front of another
one or of the end of the set makes no range. -/
def member? (modes : Modes) (c : Char) (rest : List Char) : Option (List Char) := do
  let (first, rest) ← Atom.read? modes c rest
  let single := if first.isMember modes then some (modes.skip rest) else none
  match modes.skip rest with
  | '-' :: behind =>
    if [some ']', some '-'].contains (modes.peek behind) then single
    else match modes.skip behind with
      | [] => none
      | c :: rest =>
        match first, ← Atom.read? modes c rest with
        | .literal low _, (.literal high octet, rest) =>
          if low ≤ high && first.isMember modes && Atom.isMember modes (.literal high octet) then some rest else none
        | _, _ => none
  | _ => single

/-- The height of the members so far, given that of what is left of the last operator. -/
def operated (left : Option Nat) (row : Row) : Nat :=
  match left with
  | none => row.height
  | some height => 1 + max height row.height

/-- Reads members up to the end of the set, and gives its height and what follows it. At the start hyphens
stand for themselves, and if there is none so does a closing bracket. -/
def members? : Nat → Modes → Bool → Option Nat → Row → List Char → Option (Nat × List Char)
  | 0, _, _, _, _, _ => none
  | fuel + 1, modes, start, left, row, text =>
    match modes.skip text with
    | [] => none
    | c :: rest =>
      if start && (c == '-' || (c == ']' && row.count == 0)) then
        if Atom.isMember modes (.literal c false) then members? fuel modes (c == '-') left (row.add 0) rest else none
      else if c == ']' then some (1 + operated left row, rest)
      else if ['&', '-', '~'].contains c && rest.head? == some c then
        members? fuel modes false (some (operated left row)) {} rest.tail
      else if c == '[' then
        match namedClass? rest with
        | some (negated, rest) =>
          if if modes.unicode then modes.ignoreCase else negated then none
          else members? fuel modes false left (row.add 0) rest
        | none => do
          let (height, rest) ← members? fuel modes true none {} (← opened? modes rest)
          members? fuel modes false left (row.add height) rest
      else do members? fuel modes false left (row.add 0) (← member? modes c rest)

def read? (modes : Modes) (text : List Char) : Option (Nat × List Char) := do
  members? (text.length + 1) modes true none {} (← opened? modes text)

end Bracket

end Sctp.Text.Pattern
