import Sctp.Bytes

/-! Files by their paths. A path is read name by name, from the root if it starts with a slash and from the
working directory if not; every name but the last has to lead to a directory, and a slash at the end asks
the same of the last. -/
namespace Sctp.Capture

inductive OpenError
  | noSuchFile
  | notDirectory
  | nameTooLong
  | other (reason : String)
  deriving DecidableEq, Repr

def OpenError.text : OpenError → String
  | noSuchFile => "No such file or directory (os error 2)"
  | notDirectory => "Not a directory (os error 20)"
  | nameTooLong => "File name too long (os error 36)"
  | other reason => reason

inductive Node
  | directory
  | file (octets : Bytes)
  deriving DecidableEq

abbrev Place := List String

structure FileTree where
  nodes : List (Place × Node)
  working : Place

namespace FileTree

def nameLimit : Nat := 255

def pathLimit : Nat := 4095

def node? (tree : FileTree) (place : Place) : Option Node :=
  if place.isEmpty then some .directory else tree.nodes.lookup place

/-- The place that a name leads to from another place, which has to be a directory. No name and a single dot
stay there, two dots lead up. -/
def enter (tree : FileTree) (place : Place) (name : String) : Except OpenError Place :=
  match tree.node? place with
  | none => .error .noSuchFile
  | some (.file _) => .error .notDirectory
  | some .directory =>
    if name = "" ∨ name = "." then .ok place
    else if name = ".." then .ok place.dropLast
    else if nameLimit < name.utf8ByteSize then .error .nameTooLong
    else if (tree.node? (place ++ [name])).isSome then .ok (place ++ [name])
    else .error .noSuchFile

def find (tree : FileTree) (path : String) : Except OpenError Node := do
  if path.isEmpty then throw .noSuchFile
  if pathLimit < path.utf8ByteSize then throw .nameTooLong
  let start := if path.startsWith "/" then [] else tree.working
  let place ← (path.splitOn "/").foldlM tree.enter start
  (tree.node? place).elim (throw .noSuchFile) pure

end FileTree

end Sctp.Capture
