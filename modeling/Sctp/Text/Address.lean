import Sctp.Bytes
import Sctp.Text.Radix

/-! Internet addresses and their canonical text. An IPv6 address is written in groups of lower-case
hexadecimal; the first of its longest runs of two or more zero groups becomes `::`, and an address
that embeds an IPv4 address after `::ffff:` ends in dotted form. -/
namespace Sctp

structure Ipv4 where
  octets : Bytes
  size : octets.length = 4
  deriving DecidableEq

structure Ipv6 where
  octets : Bytes
  size : octets.length = 16
  deriving DecidableEq

inductive IpAddress
  | v4 (address : Ipv4)
  | v6 (address : Ipv6)
  deriving DecidableEq

def Ipv4.ofPrefix? (octets : Bytes) : Option Ipv4 :=
  if enough : 4 ≤ octets.length then some ⟨octets.take 4, by simp only [List.length_take]; omega⟩ else none

def Ipv6.ofPrefix? (octets : Bytes) : Option Ipv6 :=
  if enough : 16 ≤ octets.length then some ⟨octets.take 16, by simp only [List.length_take]; omega⟩ else none

/-- The 16-bit words of an octet string; a last odd octet is left out. -/
def words16 : Bytes → List UInt16
  | a :: b :: rest => word16 a b :: words16 rest
  | _ => []

def Ipv4.dotted (octets : Bytes) : String := ".".intercalate (octets.map fun octet => toString octet.toNat)

def Ipv4.text (address : Ipv4) : String := Ipv4.dotted address.octets

namespace Ipv6

/-- A run of zero groups: where it starts and how many groups it has. -/
structure Run where
  start : Nat
  length : Nat

/-- The first of the longest runs of zeros, given the run that ends just before `index` and the best
one so far. -/
def longestFrom (index : Nat) (current best : Run) : List UInt16 → Run
  | [] => best
  | group :: rest =>
    if group = 0 then
      let grown : Run := if current.length = 0 then ⟨index, 1⟩ else ⟨current.start, current.length + 1⟩
      longestFrom (index + 1) grown (if best.length < grown.length then grown else best) rest
    else longestFrom (index + 1) ⟨0, 0⟩ best rest

def longest (groups : List UInt16) : Run := longestFrom 0 ⟨0, 0⟩ ⟨0, 0⟩ groups

def colons (groups : List UInt16) : String := ":".intercalate (groups.map fun group => Text.hex group.toNat)

def text (address : Ipv6) : String :=
  let groups := words16 address.octets
  if groups.take 6 = [0, 0, 0, 0, 0, 0xFFFF] then "::ffff:" ++ Ipv4.dotted (address.octets.drop 12)
  else
    let run := longest groups
    if 1 < run.length then
      colons (groups.take run.start) ++ "::" ++ colons (groups.drop (run.start + run.length))
    else colons groups

end Ipv6

def IpAddress.text : IpAddress → String
  | .v4 address => address.text
  | .v6 address => address.text

end Sctp
