/-! Records of a packet start at multiples of four octets. A record states its length without the pad
that follows it, and `align4` is the length with the pad. -/
namespace Sctp

/-- The least multiple of four that is not below the length. -/
def align4 (length : Nat) : Nat := length + (4 - length % 4) % 4

theorem align4_mod (length : Nat) : align4 length % 4 = 0 := by
  unfold align4
  omega

theorem le_align4 (length : Nat) : length ≤ align4 length := Nat.le_add_right _ _

end Sctp
