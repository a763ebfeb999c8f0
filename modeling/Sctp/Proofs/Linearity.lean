import Sctp.Proofs.BitwiseSum
import Mathlib.Data.FinEnum

/-! The checksum takes no carry from one bit to the next. The register is linear over exclusive or in
what it holds and what it takes in together, and it loses nothing of what it held. So the checksums of
two buffers of one length differ by what a register of zeros makes of the bits in which the buffers
differ, whatever else they hold. The main statement is `update_affine`. -/
namespace Sctp

/-- The bits in which two strings of octets of one length differ. -/
def difference (left right : Bytes) : Bytes := List.zipWith (· ^^^ ·) left right

theorem octets32_xor (left right : UInt32) :
    octets32 (left ^^^ right) = difference (octets32 left) (octets32 right) := by
  have octet : ∀ place, UInt8.ofNat ((left ^^^ right).toNat / 2 ^ place) =
      UInt8.ofNat (left.toNat / 2 ^ place) ^^^ UInt8.ofNat (right.toNat / 2 ^ place) := by
    intro place
    apply UInt8.toNat_inj.mp
    rw [UInt32.toNat_xor,Nat.xor_div_two_pow,UInt8.toNat_xor,UInt8.toNat_ofNat',UInt8.toNat_ofNat',
      UInt8.toNat_ofNat',Nat.xor_mod_two_pow]
  have last := octet 0
  rw [Nat.pow_zero,Nat.div_one,Nat.div_one,Nat.div_one] at last
  simp only [octets32,difference,List.zipWith_cons_cons,List.zipWith_nil_left,List.cons.injEq,and_true]
  exact ⟨octet 24,octet 16,octet 8,last⟩

namespace Checksum

theorem step_xor (register other : UInt32) (octet octet' : UInt8) :
    step (register ^^^ other) (octet ^^^ octet') = step register octet ^^^ step other octet' := by
  rw [step_eq_shifts,step_eq_shifts,step_eq_shifts,← shifts_xor,UInt8.toUInt32_xor]
  congr 1
  ac_rfl

theorem update_xor (register other : UInt32) {left right : Bytes} (length : left.length = right.length) :
    update (register ^^^ other) (difference left right) = update register left ^^^ update other right := by
  induction left generalizing register other right with
  | nil =>
    obtain rfl := List.length_eq_zero_iff.mp length.symm
    rfl
  | cons octet rest ih =>
    cases right with
    | nil => cases length
    | cons octet' rest' =>
      have later := ih (step register octet) (step other octet') (Nat.succ.inj length)
      simp only [update,difference,List.zipWith_cons_cons,List.foldl_cons,step_xor] at later ⊢
      exact later

theorem update_bijective (octets : Bytes) : Function.Bijective (update · octets) :=
  (update_injective octets).bijective_of_finite

theorem reversed_xor (left right : UInt32) : reversed (left ^^^ right) = reversed left ^^^ reversed right := by
  apply octets32_injective
  have length : (octets32 left).length = (octets32 right).length := rfl
  rw [octets32_reversed,octets32_xor,octets32_xor,octets32_reversed,octets32_reversed]
  exact List.reverse_zipWith length

/-- Both registers are complemented, which does not show in how they differ. -/
theorem finish_xor (left right : UInt32) : finish left ^^^ finish right = reversed (left ^^^ right) := by
  rw [finish,finish,← reversed_xor,UInt32.not_xor,UInt32.xor_not,UInt32.not_not]

theorem length_cleared (packet : Bytes) : (cleared packet).length = packet.length := by
  unfold cleared
  split
  · rename_i whole
    obtain ⟨front,sum,area,rfl,eight,four⟩ := parts_of_whole whole
    simp only [withField_parts area eight four,List.length_append,List.length_cons,List.length_nil,four]
  · rfl

theorem cleared_difference {left right : Bytes} (length : left.length = right.length) :
    cleared (difference left right) = difference (cleared left) (cleared right) := by
  have size : (difference left right).length = left.length := by
    rw [difference,List.length_zipWith,length,Nat.min_self]
  unfold cleared
  rw [size,← length]
  split
  · have fronts : (left.take 8).length = (right.take 8).length := by
      rw [List.length_take,List.length_take,length]
    have heads : (left.take 8 ++ [0, 0, 0, 0]).length = (right.take 8 ++ [0, 0, 0, 0]).length := by
      rw [List.length_append,List.length_append,fronts]
    rw [difference,difference,withField,withField,withField,List.zipWith_append heads,
      List.zipWith_append fronts,List.take_zipWith,List.drop_zipWith]
    rfl
  · rfl

/-- The initial registers cancel, so that only the bits that differ are left to be summed. -/
theorem ofPacket_xor {left right : Bytes} (length : left.length = right.length) :
    ofPacket left ^^^ ofPacket right = reversed (update 0 (cleared (difference left right))) := by
  have lengths : (cleared left).length = (cleared right).length := by
    rw [length_cleared,length_cleared,length]
  have registers := update_xor initial initial lengths
  rw [UInt32.xor_self,← cleared_difference length] at registers
  rw [ofPacket_eq_update,ofPacket_eq_update,finish_xor,registers]

theorem update_affine :
    (∀ (register other : UInt32) (left right : Bytes), left.length = right.length →
      update (register ^^^ other) (difference left right) = update register left ^^^ update other right) ∧
    (∀ octets : Bytes, Function.Bijective (update · octets)) ∧
    ∀ left right : Bytes, left.length = right.length →
      ofPacket left ^^^ ofPacket right = reversed (update 0 (cleared (difference left right))) ∧
      ∀ left' right' : Bytes, left'.length = right'.length →
        cleared (difference left' right') = cleared (difference left right) →
        ofPacket left' ^^^ ofPacket right' = ofPacket left ^^^ ofPacket right := by
  refine ⟨fun register other _ _ length => update_xor register other length,update_bijective,?_⟩
  intro left right length
  refine ⟨ofPacket_xor length,?_⟩
  intro left' right' length' same
  rw [ofPacket_xor length',same,ofPacket_xor length]

/-- A packet between two fixed ports, with one chunk that is no more than its head. -/
def ack (tag : UInt8) (sum : Bytes) (code : UInt8) : Bytes :=
  [0x0B, 0x59, 0x0B, 0x5A, 0, 0, 0, tag] ++ sum ++ [code, 0, 0, 4]

/-- A COOKIE ACK that verifies, and a SHUTDOWN ACK that it turned into. -/
def damaged : Bytes × Bytes := (ack 1 [0xF7, 0xED, 0x6A, 0x63] 11, ack 1 [0, 0, 0, 0] 8)

/-- The converse in another association, where the checksum fields differ otherwise. -/
def damaged' : Bytes × Bytes := (ack 0xFF [1, 2, 3, 4] 8, ack 0xFF [5, 6, 7, 9] 11)

theorem update_affine_acks :
    damaged.1.length = damaged.2.length ∧ damaged'.1.length = damaged'.2.length ∧
    difference damaged'.1 damaged'.2 ≠ difference damaged.1 damaged.2 ∧
    cleared (difference damaged'.1 damaged'.2) = cleared (difference damaged.1 damaged.2) ∧
    update (initial ^^^ 0xE3069283) (difference damaged.1 damaged.2) =
      update initial damaged.1 ^^^ update 0xE3069283 damaged.2 ∧
    Function.Bijective (update · damaged.1) ∧
    ofPacket damaged.1 ^^^ ofPacket damaged.2 =
      reversed (update 0 [0, 0, 0, 0, 0, 0, 0, 0, 0, 0, 0, 0, 3, 0, 0, 0]) ∧
    ofPacket damaged'.1 ^^^ ofPacket damaged'.2 = ofPacket damaged.1 ^^^ ofPacket damaged.2 := by
  obtain ⟨linear,bijective,packets⟩ := update_affine
  have length : damaged.1.length = damaged.2.length := rfl
  have length' : damaged'.1.length = damaged'.2.length := rfl
  have same : cleared (difference damaged'.1 damaged'.2) = cleared (difference damaged.1 damaged.2) := by decide
  obtain ⟨explicit,dependent⟩ := packets _ _ length
  exact ⟨length,length',by decide,same,linear _ _ _ _ length,bijective _,explicit,dependent _ _ length' same⟩

end Checksum

end Sctp
