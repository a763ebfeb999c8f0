import Sctp.Chunk.Announced
import Mathlib.Data.List.Induction

/-! What the parameters of a chunk come to, field by field. Taking them in one after the other fills every
field from the parameters of one type only: addresses and names are listed in order, and of the fields
that hold one value the last parameter that has it counts. -/
namespace Sctp

namespace Param

def ipv4? (param : Param) : Option Ipv4 := if param.code = 5 then Ipv4.ofPrefix? param.value else none

def ipv6? (param : Param) : Option Ipv6 := if param.code = 6 then Ipv6.ofPrefix? param.value else none

def hostName? (param : Param) : Option String := if param.code = 11 then some param.hostName else none

def cookieLife? (param : Param) : Option UInt32 := if param.code = 9 then param.number? else none

def supported (param : Param) : List UInt16 := if param.code = 12 then words16 param.value else []

def stateCookie? (param : Param) : Option Bytes := if param.code = 7 then some param.value else none

/-- The parameters in a wrapper for those that were not recognized. -/
def wrapped (param : Param) : List Param := if param.code = 8 then walk param.value else []

def info? (param : Param) : Option Bytes := if param.code = 1 then some param.value else none

end Param

def Addresses.ofParams (params : List Param) : Addresses :=
  ⟨params.filterMap Param.ipv4?,params.filterMap Param.ipv6?,params.filterMap Param.hostName?⟩

theorem filterMap_concat {Field : Type} (field? : Param → Option Field) (params : List Param) (param : Param) :
    (params ++ [param]).filterMap field? = params.filterMap field? ++ (field? param).toList := by
  rw [List.filterMap_append]
  cases found : field? param <;> simp only [List.filterMap_cons,List.filterMap_nil,found,Option.toList]

theorem getLast?_concat_toList {Field : Type} (fields : List Field) (field : Option Field) :
    (fields ++ field.toList).getLast? = field.or fields.getLast? := by
  cases field with
  | none => rw [Option.toList_none,List.append_nil,Option.none_or]
  | some field => rw [Option.toList_some,List.getLast?_concat,Option.some_or]

theorem Addresses.ofParams_concat (params : List Param) (param : Param) :
    Addresses.ofParams (params ++ [param]) =
      ((Addresses.ofParams params).absorb? param).getD (Addresses.ofParams params) := by
  simp only [Addresses.ofParams,filterMap_concat,Addresses.absorb?]
  split <;> simp_all [Param.ipv4?,Param.ipv6?,Param.hostName?]

theorem Addresses.code_of_absorb? {addresses more : Addresses} {param : Param}
    (taken : addresses.absorb? param = some more) : param.code = 5 ∨ param.code = 6 ∨ param.code = 11 := by
  unfold Addresses.absorb? at taken
  split at taken <;> simp_all

namespace InitParams

/-- Whatever its type, a parameter does to every field what it holds for it. -/
theorem absorb_eq (found : InitParams) (param : Param) :
    found.absorb param =
      { addresses := (found.addresses.absorb? param).getD found.addresses
        cookieLife := param.cookieLife?.getD found.cookieLife
        supported := found.supported ++ param.supported } := by
  unfold absorb
  split
  · rename_i addresses taken
    have plain : param.code ≠ 9 ∧ param.code ≠ 12 := by
      rcases Addresses.code_of_absorb? taken with same | same | same <;> rw [same] <;> decide
    simp only [taken,Param.cookieLife?,Param.supported,if_neg plain.1,if_neg plain.2,Option.getD_some,
      Option.getD_none,List.append_nil]
  · rename_i other
    rw [other,Option.getD_none]
    split
    · rename_i life
      simp [Param.cookieLife?,Param.supported,life]
    · rename_i types
      simp [Param.cookieLife?,Param.supported,types]
    · rename_i life types
      simp only [Param.cookieLife?,Param.supported,if_neg life,if_neg types,Option.getD_none,List.append_nil]

theorem ofParams_eq (params : List Param) :
    ofParams params =
      { addresses := Addresses.ofParams params
        cookieLife := (params.filterMap Param.cookieLife?).getLast?.getD 0
        supported := params.flatMap Param.supported } := by
  induction params using List.reverseRecOn with
  | nil => rfl
  | append_singleton params param ih =>
    have step : ofParams (params ++ [param]) = (ofParams params).absorb param := by
      simp only [ofParams,List.foldl_append,List.foldl_cons,List.foldl_nil]
    rw [step,absorb_eq,ih,Addresses.ofParams_concat,filterMap_concat,getLast?_concat_toList,Option.getD_or,
      List.flatMap_append,List.flatMap_singleton]

end InitParams

namespace InitAckParams

theorem absorb_eq (found : InitAckParams) (param : Param) :
    found.absorb param =
      { addresses := (found.addresses.absorb? param).getD found.addresses
        stateCookie := param.stateCookie?.or found.stateCookie
        unrecognized := found.unrecognized ++ param.wrapped } := by
  unfold absorb
  split
  · rename_i addresses taken
    have plain : param.code ≠ 7 ∧ param.code ≠ 8 := by
      rcases Addresses.code_of_absorb? taken with same | same | same <;> rw [same] <;> decide
    simp only [taken,Param.stateCookie?,Param.wrapped,if_neg plain.1,if_neg plain.2,Option.getD_some,
      Option.none_or,List.append_nil]
  · rename_i other
    rw [other,Option.getD_none]
    split
    · rename_i cookie
      simp [Param.stateCookie?,Param.wrapped,cookie]
    · rename_i wrapper
      simp [Param.stateCookie?,Param.wrapped,wrapper]
    · rename_i cookie wrapper
      simp only [Param.stateCookie?,Param.wrapped,if_neg cookie,if_neg wrapper,Option.none_or,List.append_nil]

theorem ofParams_eq (params : List Param) :
    ofParams params =
      { addresses := Addresses.ofParams params
        stateCookie := (params.filterMap Param.stateCookie?).getLast?
        unrecognized := params.flatMap Param.wrapped } := by
  induction params using List.reverseRecOn with
  | nil => rfl
  | append_singleton params param ih =>
    have step : ofParams (params ++ [param]) = (ofParams params).absorb param := by
      simp only [ofParams,List.foldl_append,List.foldl_cons,List.foldl_nil]
    rw [step,absorb_eq,ih,Addresses.ofParams_concat,filterMap_concat,getLast?_concat_toList,
      List.flatMap_append,List.flatMap_singleton]

end InitAckParams

theorem heartbeatInfo_eq (params : List Param) : heartbeatInfo params = (params.filterMap Param.info?).getLast? := by
  induction params using List.reverseRecOn with
  | nil => rfl
  | append_singleton params param ih =>
    have step : heartbeatInfo (params ++ [param]) =
        if param.isHeartbeatInfo then some param.value else heartbeatInfo params := by
      simp only [heartbeatInfo,List.foldl_append,List.foldl_cons,List.foldl_nil]
    rw [step,ih,filterMap_concat,getLast?_concat_toList]
    by_cases one : param.code = 1 <;> simp [Param.isHeartbeatInfo,Param.info?,one]

end Sctp
