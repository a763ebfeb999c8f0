import Sctp.Text.Alphanumeric
import Sctp.Text.Pattern.Bracket

/-! Patterns: which texts are well-formed regular expressions. A pattern is a row of branches, a branch a row
of items, and an item an atom, a set, a group around a pattern, or a repetition of an item. Counted repetition
is not among them. -/
namespace Sctp.Text.Pattern

def depthLimit : Nat := 250

/-- What an opening parenthesis is the start of: a group, or a switch of modes for the rest of the group
that it stands in. -/
inductive Opening
  | group (modes : Modes) (name : Option (List Char))
  | switch (modes : Modes)
  deriving DecidableEq

namespace Opening

def isNameStart (c : Char) : Bool := c == '_' || isAlphabetic c

def isNamePart (c : Char) : Bool := ['_', '.', '[', ']'].contains c || isAlphanumeric c

def named? (modes : Modes) (text : List Char) : Option (Opening × List Char) :=
  match text.span (· != '>') with
  | (first :: others, _ :: rest) =>
    if isNameStart first && others.all isNamePart then some (group modes (some (first :: others)), rest) else none
  | _ => none

def modeLetters : List Char := ['i', 'm', 's', 'U', 'u', 'R', 'x']

/-- Mode letters up to the end of a switch or the start of a group, behind the ones that were seen last
first. Each comes once; those behind a hyphen are switched off. -/
def switched? (modes : Modes) (seen : List Char) : List Char → Option (Opening × List Char)
  | [] => none
  | c :: rest =>
    if c == ':' || c == ')' then
      if seen.head? == some '-' || (c == ')' && seen.isEmpty) then none
      else some (if c == ':' then group modes none else switch modes, rest)
    else if seen.contains c || !(c == '-' || modeLetters.contains c) then none
    else switched? (modes.switch (!seen.contains '-') c) (c :: seen) rest

def read? (modes : Modes) (text : List Char) : Option (Opening × List Char) :=
  match modes.skip text with
  | '?' :: 'P' :: '<' :: rest => named? modes rest
  | '?' :: '<' :: rest => named? modes rest
  | '?' :: rest => switched? modes [] rest
  | rest => some (group modes none, rest)

end Opening

/-- What goes on behind a group that is open: its modes, its earlier branches, and its last branch. -/
structure Level where
  modes : Modes := {}
  branches : Row := {}
  branch : Row := {}
  deriving DecidableEq

def Level.height (level : Level) : Nat := (level.branches.add level.branch.height).height

/-- How far a pattern is read: the level at hand, those around it, the names of groups, and the height of
the last item if it can be repeated. -/
structure State where
  level : Level := {}
  outer : List Level := []
  names : List (List Char) := []
  last : Option Nat := none
  deriving DecidableEq

namespace State

def item (state : State) (height : Nat) : State :=
  { state with level.branch := state.level.branch.add height, last := some height }

def branch (state : State) : State :=
  { state with
    level.branches := state.level.branches.add state.level.branch.height
    level.branch := {}
    last := none }

def repeat? (state : State) : Option State :=
  state.last.map fun height =>
    { state with level.branch := state.level.branch.raise (height + 1), last := some (height + 1) }

/-- A group is open from here on, unless another one has its name. -/
def enter? (state : State) : Opening → Option State
  | .switch modes =>
    some { state with level.modes := modes, level.branch := state.level.branch.add 0, last := none }
  | .group modes name =>
    if name.any state.names.contains then none
    else some ⟨⟨modes, {}, {}⟩, state.level :: state.outer, name.toList ++ state.names, none⟩

/-- The group ends, and is an item of the level around it. -/
def leave? (state : State) : Option State :=
  match state.outer with
  | [] => none
  | level :: outer => some ({ state with level := level, outer := outer }.item (state.level.height + 1))

/-- What one character makes of the state, given the text behind it, and what is left of that. -/
def step? (state : State) (c : Char) (rest : List Char) : Option (State × List Char) :=
  let modes := state.level.modes
  match c with
  | '(' => do
    let (opening, rest) ← Opening.read? modes rest
    return (← state.enter? opening, rest)
  | ')' => state.leave?.map (·, rest)
  | '|' => some (state.branch, rest)
  | '[' => (Bracket.read? modes rest).map fun (height, rest) => (state.item height, rest)
  | '\x7b' => none
  | '.' => if modes.unicode then some (state.item 0, rest) else none
  | '^' | '$' => some (state.item 0, rest)
  | '*' | '+' | '?' =>
    state.repeat?.map (·, match rest with
      | '?' :: rest => rest
      | rest => rest)
  | c => do
    let (atom, rest) ← Atom.read? modes c rest
    if atom.isAllowed modes then some (state.item 0, rest) else none

def read? : Nat → State → List Char → Option State
  | 0, _, _ => none
  | fuel + 1, state, text =>
    match state.level.modes.skip text with
    | [] => some state
    | c :: rest => do
      let (state, rest) ← state.step? c rest
      read? fuel state rest

end State

/-- The whole text is a pattern: all groups are closed, and nothing is nested too deep. -/
def isWellFormed (text : List Char) : Bool :=
  match State.read? (text.length + 1) {} text with
  | none => false
  | some state => state.outer.isEmpty && state.level.height ≤ depthLimit

end Sctp.Text.Pattern
