import Sctp.Param
import Sctp.Text.Address
import Sctp.Text.Utf8

/-! What an endpoint announces in the parameters of its INIT or INIT ACK chunk. The parameters are taken
in one after the other; unknown ones leave no trace, and neither do values too short for their type. -/
namespace Sctp

namespace Param

def isHeartbeatInfo (param : Param) : Bool := param.code == 1

def hostName (param : Param) : String := Text.Utf8.decode (param.value.takeWhile (· != 0))

def number? (param : Param) : Option UInt32 :=
  match param.value with
  | a :: b :: c :: d :: _ => some (word32 a b c d)
  | _ => none

end Param

/-- The addresses under which an endpoint can be reached, in the order of their parameters. -/
structure Addresses where
  ipv4 : List Ipv4 := []
  ipv6 : List Ipv6 := []
  hostNames : List String := []
  deriving DecidableEq

/-- The list with the address of the parameter, or `none` if the parameter is of another kind. -/
def Addresses.absorb? (addresses : Addresses) (param : Param) : Option Addresses :=
  match param.code with
  | 5 => some { addresses with ipv4 := addresses.ipv4 ++ (Ipv4.ofPrefix? param.value).toList }
  | 6 => some { addresses with ipv6 := addresses.ipv6 ++ (Ipv6.ofPrefix? param.value).toList }
  | 11 => some { addresses with hostNames := addresses.hostNames ++ [param.hostName] }
  | _ => none

structure InitParams where
  addresses : Addresses := {}
  /-- The increment of the cookie's life span that is asked for, 0 if none is. -/
  cookieLife : UInt32 := 0
  supported : List UInt16 := []
  deriving DecidableEq

namespace InitParams

def absorb (found : InitParams) (param : Param) : InitParams :=
  match found.addresses.absorb? param with
  | some addresses => { found with addresses := addresses }
  | none =>
    match param.code with
    | 9 => { found with cookieLife := param.number?.getD found.cookieLife }
    | 12 => { found with supported := found.supported ++ words16 param.value }
    | _ => found

def ofParams (params : List Param) : InitParams := params.foldl absorb {}

end InitParams

structure InitAckParams where
  addresses : Addresses := {}
  stateCookie : Option Bytes := none
  /-- The parameters of the INIT that the sender did not recognize, read out of their wrappers. -/
  unrecognized : List Param := []
  deriving DecidableEq

namespace InitAckParams

/-- A later state cookie replaces an earlier one; wrapped parameters add up. -/
def absorb (found : InitAckParams) (param : Param) : InitAckParams :=
  match found.addresses.absorb? param with
  | some addresses => { found with addresses := addresses }
  | none =>
    match param.code with
    | 7 => { found with stateCookie := some param.value }
    | 8 => { found with unrecognized := found.unrecognized ++ Param.walk param.value }
    | _ => found

def ofParams (params : List Param) : InitAckParams := params.foldl absorb {}

def cookieLength (found : InitAckParams) : Nat := (found.stateCookie.map List.length).getD 0

end InitAckParams

/-- The heartbeat information among the parameters; of several the last one counts. -/
def heartbeatInfo (params : List Param) : Option Bytes :=
  params.foldl (fun found param => if param.isHeartbeatInfo then some param.value else found) none

end Sctp
