import Sctp.Bytes

/-! UTF-8 read without refusing anything: every maximal prefix of a well-formed sequence that is not
completed turns into one U+FFFD, and reading goes on at the octet that broke it. -/
namespace Sctp.Text.Utf8

def replacement : Char := '\uFFFD'

/-- The character at the head when its lead octet announced `owed` further octets, of which the
first lies between `low` and `high` and the others between 80 and BF. -/
def trail : Nat → UInt8 → UInt8 → Nat → Bytes → Char × Bytes
  | 0, _, _, value, rest => (Char.ofNat value, rest)
  | _ + 1, _, _, _, [] => (replacement, [])
  | owed + 1, low, high, value, octet :: rest =>
    if low ≤ octet ∧ octet ≤ high then
      trail owed 0x80 0xBF (value * 64 + octet.toNat % 64) rest
    else (replacement, octet :: rest)

def first (lead : UInt8) (rest : Bytes) : Char × Bytes :=
  if lead ≤ 0x7F then (Char.ofNat lead.toNat, rest)
  else if 0xC2 ≤ lead ∧ lead ≤ 0xDF then trail 1 0x80 0xBF (lead.toNat % 32) rest
  else if lead = 0xE0 then trail 2 0xA0 0xBF (lead.toNat % 16) rest
  else if lead = 0xED then trail 2 0x80 0x9F (lead.toNat % 16) rest
  else if 0xE1 ≤ lead ∧ lead ≤ 0xEF then trail 2 0x80 0xBF (lead.toNat % 16) rest
  else if lead = 0xF0 then trail 3 0x90 0xBF (lead.toNat % 8) rest
  else if 0xF1 ≤ lead ∧ lead ≤ 0xF3 then trail 3 0x80 0xBF (lead.toNat % 8) rest
  else if lead = 0xF4 then trail 3 0x80 0x8F (lead.toNat % 8) rest
  else (replacement, rest)

theorem length_trail (owed : Nat) (low high : UInt8) (value : Nat) (rest : Bytes) :
    (trail owed low high value rest).2.length ≤ rest.length := by
  induction owed generalizing low high value rest with
  | zero => exact Nat.le_refl _
  | succ owed ih =>
    cases rest with
    | nil => exact Nat.le_refl _
    | cons octet rest =>
      unfold trail
      split
      · exact Nat.le_succ_of_le (ih _ _ _ _)
      · exact Nat.le_refl _

theorem length_first (lead : UInt8) (rest : Bytes) : (first lead rest).2.length ≤ rest.length := by
  unfold first
  repeat' split
  all_goals first
    | exact Nat.le_refl _
    | exact length_trail _ _ _ _ _

def chars : Bytes → List Char
  | [] => []
  | lead :: rest => (first lead rest).1 :: chars (first lead rest).2
  termination_by octets => octets.length
  decreasing_by
    have shorter := length_first lead rest
    simp only [List.length_cons]
    omega

def decode (octets : Bytes) : String := String.ofList (chars octets)

end Sctp.Text.Utf8
