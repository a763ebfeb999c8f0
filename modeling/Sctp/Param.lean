import Sctp.Bytes
import Sctp.Padding
import Sctp.Code.Registry

/-! Parameters: records of a 16-bit code, a 16-bit length that counts the four octets of the two, and a
value, padded to a multiple of four. Error causes have the same form. `Param.walk` lists the records of
an area; `Param.Cursor` goes through them one at a time and knows how many octets it has left. -/
namespace Sctp

structure Param where
  code : UInt16
  declared : UInt16
  /-- The value as far as the area holds it. -/
  value : Bytes
  deriving DecidableEq

namespace Param

def length (param : Param) : Nat := param.declared.toNat

def wireLength (param : Param) : Nat := align4 param.length

def valueLength (param : Param) : Nat := param.length - 4

def isTruncated (param : Param) : Bool := param.value.length < param.valueLength

def text (param : Param) : String := s!"{paramTypes.text param.code.toNat}({param.valueLength})"

def causeText (param : Param) : String := errorCauses.text param.code.toNat

/-- The records of an area. A record that runs past the end keeps the octets that are there. One that
declares fewer octets than its own head is listed without a value and is the last, since it does not
say where the next would start. Fewer than four octets at the end are no record. -/
def walk : Bytes → List Param
  | c₀ :: c₁ :: l₀ :: l₁ :: rest =>
    if (word16 l₀ l₁).toNat < 4 then [⟨word16 c₀ c₁, word16 l₀ l₁, []⟩]
    else
      ⟨word16 c₀ c₁, word16 l₀ l₁, rest.take ((word16 l₀ l₁).toNat - 4)⟩ ::
        walk (rest.drop (align4 (word16 l₀ l₁).toNat - 4))
  | _ => []
  termination_by area => area.length
  decreasing_by
    simp only [List.length_drop, List.length_cons]
    omega

/-- A position in a parameter area: the octets not yet covered, their number, and whether the walk has
ended. -/
structure Cursor where
  rest : Bytes
  remaining : Nat := rest.length
  ended : Bool := false
  remaining_eq : remaining = rest.length := by rfl
  deriving DecidableEq

namespace Cursor

def start (area : Bytes) : Cursor := { rest := area }

def next : Cursor → Option Param × Cursor
  | ⟨c₀ :: c₁ :: l₀ :: l₁ :: rest, remaining, false, same⟩ =>
    if short : (word16 l₀ l₁).toNat < 4 then
      (some ⟨word16 c₀ c₁, word16 l₀ l₁, []⟩, ⟨c₀ :: c₁ :: l₀ :: l₁ :: rest, remaining, true, same⟩)
    else
      (some ⟨word16 c₀ c₁, word16 l₀ l₁, rest.take ((word16 l₀ l₁).toNat - 4)⟩,
        { rest := rest.drop (align4 (word16 l₀ l₁).toNat - 4)
          remaining := remaining - align4 (word16 l₀ l₁).toNat
          remaining_eq := by
            have aligned := le_align4 (word16 l₀ l₁).toNat
            simp only [same, List.length_cons, List.length_drop]
            omega })
  | ⟨rest, remaining, _, same⟩ => (none, ⟨rest, remaining, true, same⟩)

def toList (cursor : Cursor) : List Param := if cursor.ended then [] else walk cursor.rest

/-- A cursor yields its records one after the other, and `none` once there are no more. -/
theorem toList_eq_next (cursor : Cursor) :
    cursor.toList = match cursor.next with
      | (some param, after) => param :: after.toList
      | (none, _) => [] := by
  obtain ⟨rest, remaining, ended, same⟩ := cursor
  cases ended with
  | true => simp [toList, next]
  | false =>
    match rest with
    | c₀ :: c₁ :: l₀ :: l₁ :: rest =>
      by_cases short : (word16 l₀ l₁).toNat < 4 <;> simp [toList, next, walk, short]
    | [] | [_] | [_, _] | [_, _, _] => simp [toList, next, walk]

end Cursor

end Param

end Sctp
