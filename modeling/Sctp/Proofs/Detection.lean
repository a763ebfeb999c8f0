import Sctp.Proofs.BitwiseSum

/-! Damage that the checksum cannot miss. As many octets as the register has room for determine it, and
whatever comes after them keeps two registers apart, so a packet that verifies does not verify any more
once up to four octets in a row have changed on one side of the checksum field, or once that field has.
The main statement is `damage_is_rejected`. -/
namespace Sctp

namespace Checksum

theorem length_bits (octets : Bytes) : (bits octets).length = 8 * octets.length := by
  induction octets with
  | nil => rfl
  | cons octet rest ih =>
    rw [bits,List.flatMap_cons,List.length_append,List.length_map,List.length_range,List.length_cons]
    exact (congrArg (8 + ·) ih).trans (by omega)

theorem bits_injective {left right : Bytes} (same : bits left = bits right) : left = right := by
  induction left generalizing right with
  | nil =>
    have length := congrArg List.length same
    rw [length_bits,length_bits,List.length_nil] at length
    exact (List.length_eq_zero_iff.mp (by omega)).symm
  | cons octet rest ih =>
    cases right with
    | nil =>
      have length := congrArg List.length same
      rw [length_bits,length_bits,List.length_nil,List.length_cons] at length
      omega
    | cons octet' rest' =>
      rw [bits,bits,List.flatMap_cons,List.flatMap_cons] at same
      obtain ⟨first,later⟩ := List.append_inj same (by simp)
      have packed := congrArg pack first
      rw [pack_testBit,pack_testBit,Nat.mod_eq_of_lt octet.toNat_lt,Nat.mod_eq_of_lt octet'.toNat_lt] at packed
      rw [UInt8.toNat_inj.mp packed,ih later]

/-- A register tells apart all messages of a length that it has room for. -/
theorem update_injective_of_room {register : UInt32} {left right : Bytes} (length : left.length = right.length)
    (room : left.length ≤ 4) (same : update register left = update register right) : left = right := by
  have bitLength : (bits left).length = (bits right).length := by rw [length_bits,length_bits,length]
  have bitRoom : (bits left).length ≤ 32 := by rw [length_bits]; omega
  have small : ∀ message : List Bool, message.length ≤ 32 → pack message < 4294967296 := by
    intro message fits
    exact Nat.lt_of_lt_of_le (pack_lt message) (Nat.pow_le_pow_right (by omega) fits)
  rw [update_eq_clock,update_eq_clock,foldl_clock _ _ bitRoom,foldl_clock _ _ (bitLength ▸ bitRoom),
    ← bitLength] at same
  have words := congrArg UInt32.toNat ((UInt32.xor_right_inj _).mp (shifts_injective _ same))
  rw [toNat_ofNat (small _ bitRoom),toNat_ofNat (small _ (bitLength ▸ bitRoom))] at words
  exact bits_injective (pack_injective bitLength words)

/-- All that was sent has been received, up to the octets from one place up to another. -/
def AgreeOutside (start stop : Nat) (sent received : Bytes) : Prop :=
  ∀ i, i < start ∨ stop ≤ i → sent[i]? = received[i]?

namespace AgreeOutside
variable {start stop : Nat} {sent received : Bytes} (agree : AgreeOutside start stop sent received)
include agree

theorem take (count : Nat) : AgreeOutside start stop (sent.take count) (received.take count) := by
  intro i outside
  rw [List.getElem?_take,List.getElem?_take,agree i outside]

theorem drop (count : Nat) : AgreeOutside (start - count) (stop - count) (sent.drop count) (received.drop count) := by
  intro i outside
  rw [List.getElem?_drop,List.getElem?_drop]
  exact agree _ (by omega)

theorem eq_of_stop (zero : stop = 0) : sent = received :=
  List.ext_getElem? fun i => agree i (Or.inr (zero ▸ Nat.zero_le i))

theorem eq_of_start (left : sent.length ≤ start) (right : received.length ≤ start) : sent = received := by
  apply List.ext_getElem?
  intro i
  by_cases inside : i < start
  · exact agree i (Or.inl inside)
  · rw [List.getElem?_eq_none (by omega),List.getElem?_eq_none (by omega)]

theorem eq_of_update {register : UInt32} (length : received.length = sent.length) (room : stop ≤ start + 4)
    (same : update register sent = update register received) : sent = received := by
  have cut : ∀ octets : Bytes,
      octets = octets.take start ++ ((octets.drop start).take 4 ++ (octets.drop start).drop 4) := by
    intro octets
    rw [List.take_append_drop,List.take_append_drop]
  have front : sent.take start = received.take start := (agree.take start).eq_of_start (by simp) (by simp)
  have back : (sent.drop start).drop 4 = (received.drop start).drop 4 :=
    ((agree.drop start).drop 4).eq_of_stop (by omega)
  rw [cut sent,cut received,front,back,update_append,update_append,update_append,update_append] at same
  have window := update_injective_of_room (by simp [length]) (by simp) (update_injective _ same)
  rw [cut sent,cut received,front,window,back]

end AgreeOutside

theorem finish_injective : Function.Injective finish := by
  intro left right same
  have octets := congrArg octets32 same
  rw [finish,finish,octets32_reversed,octets32_reversed,List.reverse_inj] at octets
  exact UInt32.not_inj.mp (octets32_injective octets)

def Verifies (octets : Bytes) : Prop := ∃ packet, Packet.decode octets = .ok packet ∧ packet.verifies = true

def Rejected (octets : Bytes) : Prop := ∃ packet, Packet.decode octets = .ok packet ∧ packet.verifies = false

/-- The damage is within the checksum field, or within four octets in a row before or behind it. -/
def Confined (sent received : Bytes) : Prop :=
  AgreeOutside 8 12 sent received ∨
    ∃ start stop, stop ≤ start + 4 ∧ (stop ≤ 8 ∨ 12 ≤ start) ∧ AgreeOutside start stop sent received

def flipBit (place : Nat) (octets : Bytes) : Bytes :=
  octets.modify (place / 8) fun octet => octet ^^^ UInt8.ofNat (2 ^ (place % 8))

theorem eq_of_parts {sent received : Bytes} (head : sent.take 8 = received.take 8)
    (sum : field sent = field received) (area : sent.drop 12 = received.drop 12) : sent = received := by
  have parts : ∀ octets : Bytes, octets = octets.take 8 ++ field octets ++ octets.drop 12 := by
    intro octets
    have front : (octets.take 12).take 8 = octets.take 8 := by rw [List.take_take]; rfl
    rw [field,slice,← front,List.take_append_drop,List.take_append_drop]
  rw [parts sent,parts received,head,sum,area]

theorem eq_of_confined {sent received : Bytes} (whole : Header.size ≤ sent.length)
    (length : received.length = sent.length) (confined : Confined sent received)
    (sum : octets32 (ofPacket sent) = field sent) (sum' : octets32 (ofPacket received) = field received) :
    sent = received := by
  have whole' : Header.size ≤ received.length := length ▸ whole
  -- Equal fields ask for equal registers, and what follows the window keeps registers apart.
  have registers : field sent = field received →
      update (update (update initial (sent.take 8)) [0, 0, 0, 0]) (sent.drop 12) =
        update (update (update initial (received.take 8)) [0, 0, 0, 0]) (received.drop 12) := by
    intro fields
    have packets := octets32_injective (sum.trans (fields.trans sum'.symm))
    rw [ofPacket_of_whole whole,ofPacket_of_whole whole'] at packets
    exact finish_injective packets
  rcases confined with agree | ⟨start,stop,room,before | behind,agree⟩
  · have head : sent.take 8 = received.take 8 := (agree.take 8).eq_of_start (by simp) (by simp)
    have area : sent.drop 12 = received.drop 12 := (agree.drop 12).eq_of_stop rfl
    rw [ofPacket_of_whole whole,head,area,← ofPacket_of_whole whole',sum'] at sum
    exact eq_of_parts head sum.symm area
  · have fields : field sent = field received := ((agree.take 12).drop 8).eq_of_stop (by omega)
    have area : sent.drop 12 = received.drop 12 := (agree.drop 12).eq_of_stop (by omega)
    have same := registers fields
    rw [area] at same
    have head := (agree.take 8).eq_of_update (by simp [length]) room
      (update_injective _ (update_injective _ same))
    exact eq_of_parts head fields area
  · have fields : field sent = field received := by
      apply ((agree.take 12).drop 8).eq_of_start
      all_goals
        rw [List.length_drop,List.length_take]
        omega
    have head : sent.take 8 = received.take 8 := by
      apply (agree.take 8).eq_of_start
      all_goals
        rw [List.length_take]
        omega
    have same := registers fields
    rw [head] at same
    have area := (agree.drop 12).eq_of_update (by simp [length]) (by omega) same
    exact eq_of_parts head fields area

theorem rejected_of_confined {sent received : Bytes} (verified : Verifies sent)
    (length : received.length = sent.length) (differ : received ≠ sent) (confined : Confined sent received) :
    Rejected received := by
  obtain ⟨packet,decoded,verifies⟩ := verified
  have whole : Header.size ≤ sent.length := by
    rw [← Packet.octets_of_decode decoded,List.length_append]
    exact Nat.le_add_right _ _
  obtain ⟨packet',decoded',sum⟩ := decode_of_whole whole
  obtain rfl := Except.ok.inj (decoded.symm.trans decoded')
  obtain ⟨damaged,reached,sum'⟩ := decode_of_whole (length ▸ whole : Header.size ≤ received.length)
  refine ⟨damaged,reached,Bool.eq_false_iff.mpr ?_⟩
  intro also
  exact differ (eq_of_confined whole length confined (sum.mp verifies) (sum'.mp also)).symm

theorem flipBit_ne {place : Nat} {octets : Bytes} (inside : place < 8 * octets.length) :
    flipBit place octets ≠ octets := by
  intro same
  have there : place / 8 < octets.length := by omega
  have small : 2 ^ (place % 8) < 2 ^ 8 := Nat.pow_lt_pow_right (by omega) (Nat.mod_lt _ (by omega))
  have octet := congrArg (fun octets : Bytes => octets[place / 8]?) same
  rw [flipBit,List.getElem?_modify_eq,List.getElem?_eq_getElem there] at octet
  have mask : UInt8.ofNat (2 ^ (place % 8)) = 0 := by
    apply (UInt8.xor_right_inj octets[place / 8]).mp
    rw [UInt8.xor_zero]
    exact Option.some.inj octet
  have value := congrArg UInt8.toNat mask
  rw [UInt8.toNat_ofNat',Nat.mod_eq_of_lt small,UInt8.toNat_zero] at value
  exact absurd value (Nat.two_pow_pos _).ne'

theorem confined_flipBit (place : Nat) (octets : Bytes) : Confined octets (flipBit place octets) := by
  have agree : ∀ start stop, start ≤ place / 8 → place / 8 < stop →
      AgreeOutside start stop octets (flipBit place octets) := by
    intro start stop after before i outside
    have elsewhere : place / 8 ≠ i := by omega
    exact (List.getElem?_modify_ne _ octets elsewhere).symm
  by_cases before : place / 8 < 8
  · exact Or.inr ⟨place / 8,place / 8 + 1,by omega,by omega,agree _ _ (by omega) (by omega)⟩
  by_cases behind : 12 ≤ place / 8
  · exact Or.inr ⟨place / 8,place / 8 + 1,by omega,by omega,agree _ _ (by omega) (by omega)⟩
  · exact Or.inl (agree 8 12 (by omega) (by omega))

theorem damage_is_rejected {sent : Bytes} (verified : Verifies sent) :
    (∀ received : Bytes, received.length = sent.length → received ≠ sent → Confined sent received →
      Rejected received) ∧
    ∀ place, place < 8 * sent.length → Rejected (flipBit place sent) := by
  constructor
  · intro received length differ confined
    exact rejected_of_confined verified length differ confined
  · intro place inside
    exact rejected_of_confined verified (List.length_modify _ _ _) (flipBit_ne inside)
      (confined_flipBit place sent)

def cookieAck : Bytes := [0x0B, 0x59, 0x0B, 0x59, 0, 0, 0, 1, 0x58, 0xA5, 0x1C, 0x32, 11, 0, 0, 4]

theorem damage_is_rejected_cookieAck :
    Verifies cookieAck ∧
      (∀ received : Bytes, received.length = cookieAck.length → received ≠ cookieAck →
        Confined cookieAck received → Rejected received) ∧
      ∀ place, place < 8 * cookieAck.length → Rejected (flipBit place cookieAck) := by
  obtain ⟨packet,decoded,sum⟩ := decode_of_whole (by decide : Header.size ≤ cookieAck.length)
  have verified : Verifies cookieAck := ⟨packet,decoded,sum.mpr (by decide +kernel)⟩
  exact ⟨verified,damage_is_rejected verified⟩

end Checksum

end Sctp
