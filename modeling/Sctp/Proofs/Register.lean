import Sctp.Checksum
import Mathlib.Logic.Function.Basic
import Mathlib.Algebra.Ring.Parity
import Mathlib.Data.Nat.Bitwise

/-! The checksum register, one bit of the message at a time. A shift is linear over exclusive or and
loses nothing. So a message that the register has room for is added to it first and shifted through
afterwards (`foldl_clock`); for the eight bits of an octet that is the step by the table
(`foldl_clock_octet`). -/
namespace Sctp.Checksum

/-- One bit of the message: the polynomial is added if the bit differs from the one that leaves. -/
def clock (register : UInt32) (bit : Bool) : UInt32 :=
  if register.toNat.testBit 0 = bit then register >>> 1 else (register >>> 1) ^^^ 0x82F63B78

/-- The bits of a message, each octet with its least significant bit first. -/
def bits (octets : Bytes) : List Bool :=
  octets.flatMap fun octet => (List.range 8).map octet.toNat.testBit

/-- The bound is written out for linear arithmetic. -/
theorem toNat_ofNat {value : Nat} (room : value < 4294967296) : (UInt32.ofNat value).toNat = value :=
  UInt32.toNat_ofNat_of_lt' room

/-- Numbers whose binary digits are apart are added without a carry. -/
theorem scaled_add_eq_xor (count high : Nat) {low : Nat} (below : low < 2 ^ count) :
    2 ^ count * high + low = (2 ^ count * high) ^^^ low := by
  have positive : 0 < 2 ^ count := Nat.two_pow_pos count
  have upper : ((2 ^ count * high) ^^^ low) / 2 ^ count = high := by
    rw [Nat.xor_div_two_pow,Nat.mul_div_cancel_left _ positive,Nat.div_eq_of_lt below,Nat.xor_zero]
  have lower : ((2 ^ count * high) ^^^ low) % 2 ^ count = low := by
    rw [Nat.xor_mod_two_pow,Nat.mul_mod_right,Nat.mod_eq_of_lt below,Nat.zero_xor]
  have whole := Nat.div_add_mod ((2 ^ count * high) ^^^ low) (2 ^ count)
  rw [upper,lower] at whole
  exact whole

theorem ofNat_xor (left right : Nat) :
    UInt32.ofNat (left ^^^ right) = UInt32.ofNat left ^^^ UInt32.ofNat right := by
  apply UInt32.toNat_inj.mp
  rw [UInt32.toNat_xor,UInt32.toNat_ofNat',UInt32.toNat_ofNat',UInt32.toNat_ofNat',Nat.xor_mod_two_pow]

theorem toNat_shifted (word : UInt32) : (word >>> 8).toNat = word.toNat / 256 := by
  rw [UInt32.toNat_shiftRight]
  exact Nat.shiftRight_eq_div_pow _ 8

def feedback (bit : Bool) : UInt32 := if bit then 0x82F63B78 else 0

theorem feedback_xor (left right : Bool) : feedback (left ^^ right) = feedback left ^^^ feedback right := by
  cases left <;> cases right <;> rfl

theorem shift_eq (register : UInt32) :
    shift register = (register >>> 1) ^^^ feedback (register.toNat.testBit 0) := by
  have low : register &&& 1 = 1 ↔ register.toNat.testBit 0 = true := by
    rw [← UInt32.toNat_inj,UInt32.toNat_and,Nat.testBit_zero,decide_eq_true_iff]
    exact iff_of_eq (congrArg (· = 1) (Nat.and_one_is_mod _))
  cases bit : register.toNat.testBit 0 with
  | true => exact if_pos (low.mpr bit)
  | false =>
    rw [shift,if_neg fun odd => Bool.false_ne_true (bit.symm.trans (low.mp odd))]
    exact (UInt32.xor_zero).symm

theorem shift_xor (left right : UInt32) : shift (left ^^^ right) = shift left ^^^ shift right := by
  rw [shift_eq,shift_eq,shift_eq,UInt32.toNat_xor,Nat.testBit_xor,feedback_xor,UInt32.shiftRight_xor]
  ac_rfl

theorem toNat_half (register : UInt32) : (register >>> 1).toNat = register.toNat / 2 := by
  rw [UInt32.toNat_shiftRight]
  exact Nat.shiftRight_eq_div_pow _ 1

/-- The polynomial has its highest bit set, so nothing but zero is shifted to zero. -/
theorem eq_zero_of_shift {register : UInt32} (zero : shift register = 0) : register = 0 := by
  rw [shift_eq,UInt32.xor_eq_zero_iff] at zero
  have half := congrArg UInt32.toNat zero
  rw [toNat_half] at half
  have bound := register.toNat_lt
  apply UInt32.toNat_inj.mp
  rw [UInt32.toNat_zero]
  cases bit : register.toNat.testBit 0 with
  | true =>
    have top : (feedback true).toNat = 0x82F63B78 := rfl
    rw [bit,top] at half
    omega
  | false =>
    have even : register.toNat % 2 ≠ 1 := by simpa only [Nat.testBit_zero,decide_eq_false_iff_not] using bit
    have none : (feedback false).toNat = 0 := rfl
    rw [bit,none] at half
    omega

theorem shift_injective : Function.Injective shift := by
  intro left right same
  apply UInt32.xor_eq_zero_iff.mp
  apply eq_zero_of_shift
  rw [shift_xor,same,UInt32.xor_self]

theorem shifts_xor (count : Nat) (left right : UInt32) :
    shifts count (left ^^^ right) = shifts count left ^^^ shifts count right := by
  induction count generalizing left right with
  | zero => rfl
  | succ count ih => rw [shifts,shifts,shifts,shift_xor,ih]

theorem shifts_injective (count : Nat) : Function.Injective (shifts count) := by
  induction count with
  | zero => exact Function.injective_id
  | succ count ih => exact ih.comp shift_injective

theorem shift_double (half : Nat) (room : 2 * half < 4294967296) :
    shift (UInt32.ofNat (2 * half)) = UInt32.ofNat half := by
  have value : (UInt32.ofNat (2 * half)).toNat = 2 * half := toNat_ofNat room
  have even : (2 * half).testBit 0 = false := by simp
  rw [shift_eq,value,even]
  apply UInt32.toNat_inj.mp
  rw [show feedback false = 0 from rfl,UInt32.xor_zero,toNat_half,value,
    toNat_ofNat (by omega)]
  omega

theorem shifts_scaled (count value : Nat) (room : 2 ^ count * value < 4294967296) :
    shifts count (UInt32.ofNat (2 ^ count * value)) = UInt32.ofNat value := by
  induction count with
  | zero => rw [Nat.pow_zero,Nat.one_mul]; rfl
  | succ count ih =>
    have doubled : 2 ^ (count + 1) * value = 2 * (2 ^ count * value) := by
      rw [Nat.pow_succ,Nat.mul_comm _ 2,Nat.mul_assoc]
    rw [doubled] at room ⊢
    rw [shifts,shift_double _ room,ih (by omega)]

/-- The number whose binary digits are the bits, the least significant one first. -/
def pack : List Bool → Nat
  | [] => 0
  | bit :: rest => bit.toNat + 2 * pack rest

theorem pack_lt (message : List Bool) : pack message < 2 ^ message.length := by
  induction message with
  | nil => exact Nat.one_pos
  | cons bit rest ih =>
    have small := bit.toNat_lt
    rw [pack,List.length_cons,Nat.pow_succ]
    omega

theorem pack_injective {left right : List Bool} (length : left.length = right.length)
    (same : pack left = pack right) : left = right := by
  induction left generalizing right with
  | nil => exact (List.length_eq_zero_iff.mp length.symm).symm
  | cons bit rest ih =>
    cases right with
    | nil => cases length
    | cons bit' rest' =>
      have small := bit.toNat_lt
      have small' := bit'.toNat_lt
      rw [pack,pack] at same
      have parity : bit.toNat = bit'.toNat := by omega
      have first : bit = bit' := by
        revert parity
        cases bit <;> cases bit' <;> decide
      rw [first,ih (Nat.succ.inj length) (by omega)]

theorem pack_testBit (count value : Nat) :
    pack ((List.range count).map value.testBit) = value % 2 ^ count := by
  induction count generalizing value with
  | zero => exact (Nat.mod_one value).symm
  | succ count ih =>
    have later : (value.testBit ∘ Nat.succ) = (value / 2).testBit := by
      funext i
      exact Nat.testBit_succ value i
    have first : (value.testBit 0).toNat = value % 2 := by
      rw [Nat.toNat_testBit,Nat.pow_zero,Nat.div_one]
    rw [List.range_succ_eq_map,List.map_cons,List.map_map,later,pack,ih,first,Nat.pow_succ,
      Nat.mul_comm _ 2,Nat.mod_mul]

theorem ofNat_pack_cons (bit : Bool) (rest : List Bool) :
    UInt32.ofNat (pack (bit :: rest)) = UInt32.ofNat bit.toNat ^^^ UInt32.ofNat (2 * pack rest) := by
  have sum := scaled_add_eq_xor 1 (pack rest) bit.toNat_lt
  rw [Nat.pow_one,Nat.add_comm,Nat.xor_comm] at sum
  rw [pack,sum,ofNat_xor]

theorem clock_eq (register : UInt32) (bit : Bool) :
    clock register bit = shift (register ^^^ UInt32.ofNat bit.toNat) := by
  have half : UInt32.ofNat bit.toNat >>> 1 = 0 := by cases bit <;> rfl
  have low : (UInt32.ofNat bit.toNat).toNat.testBit 0 = bit := by cases bit <;> rfl
  rw [shift_eq,UInt32.shiftRight_xor,half,UInt32.xor_zero,UInt32.toNat_xor,Nat.testBit_xor,low,clock]
  cases register.toNat.testBit 0 <;> cases bit <;> simp [feedback]

theorem foldl_clock (register : UInt32) (message : List Bool) (room : message.length ≤ 32) :
    message.foldl clock register = shifts message.length (register ^^^ UInt32.ofNat (pack message)) := by
  induction message generalizing register with
  | nil => exact (UInt32.xor_zero).symm
  | cons bit rest ih =>
    rw [List.length_cons] at room
    have bound : 2 * pack rest < 4294967296 := by
      have packed := pack_lt rest
      have scaled : 2 ^ rest.length ≤ 2 ^ 31 := Nat.pow_le_pow_right (by omega) (by omega)
      omega
    rw [List.foldl_cons,ih _ (by omega),List.length_cons,shifts,ofNat_pack_cons,← UInt32.xor_assoc,
      shift_xor _ (UInt32.ofNat (2 * pack rest)),shift_double _ bound,clock_eq]

/-- Eight shifts take in the lowest octet by the table; the others only move down. -/
theorem shifts_eight (word : UInt32) : shifts 8 word = entry word.toUInt8 ^^^ (word >>> 8) := by
  have bound := word.toNat_lt
  have split : word = UInt32.ofNat (2 ^ 8 * (word.toNat / 256)) ^^^ word.toUInt8.toUInt32 := by
    have sum := scaled_add_eq_xor 8 (word.toNat / 256) (Nat.mod_lt word.toNat (Nat.two_pow_pos 8))
    apply UInt32.toNat_inj.mp
    rw [UInt32.toNat_xor,toNat_ofNat (by omega),UInt8.toNat_toUInt32,UInt32.toNat_toUInt8,← sum]
    omega
  have moved : UInt32.ofNat (word.toNat / 256) = word >>> 8 := by
    apply UInt32.toNat_inj.mp
    rw [toNat_ofNat (by omega),toNat_shifted]
  conv_lhs => rw [split]
  rw [shifts_xor,shifts_scaled 8 _ (by omega),moved,entry,UInt32.xor_comm]

theorem step_eq_shifts (register : UInt32) (octet : UInt8) :
    step register octet = shifts 8 (register ^^^ octet.toUInt32) := by
  have small : octet.toUInt32 >>> 8 = 0 := by
    apply UInt32.toNat_inj.mp
    rw [toNat_shifted,UInt8.toNat_toUInt32]
    exact Nat.div_eq_of_lt octet.toNat_lt
  rw [shifts_eight,step,table_get,UInt32.shiftRight_xor,small,UInt32.xor_zero]

theorem step_injective (octet : UInt8) : Function.Injective (step · octet) := by
  intro left right same
  simp only [step_eq_shifts] at same
  exact (UInt32.xor_left_inj _).mp (shifts_injective 8 same)

theorem update_injective (octets : Bytes) : Function.Injective (update · octets) := by
  induction octets with
  | nil => exact Function.injective_id
  | cons octet rest ih => exact ih.comp (step_injective octet)

theorem foldl_clock_octet (register : UInt32) (octet : UInt8) :
    ((List.range 8).map octet.toNat.testBit).foldl clock register = step register octet := by
  have value : octet.toNat % 2 ^ 8 = octet.toNat := Nat.mod_eq_of_lt octet.toNat_lt
  have word : UInt32.ofNat octet.toNat = octet.toUInt32 := UInt32.toNat_inj.mp (by simp)
  rw [foldl_clock _ _ (by simp),pack_testBit,value,word,step_eq_shifts,List.length_map,List.length_range]

theorem update_eq_clock (register : UInt32) (octets : Bytes) :
    update register octets = (bits octets).foldl clock register := by
  induction octets generalizing register with
  | nil => rfl
  | cons octet rest ih =>
    have first := foldl_clock_octet register octet
    rw [bits,List.flatMap_cons,List.foldl_append,first]
    exact ih _

end Sctp.Checksum
