import Sctp.Proofs.Deferred
import Sctp.Proofs.Register
import Sctp.Proofs.Tiling

/-! The checksum of a packet is the bitwise sum of the packet with its checksum field cleared, and a
decoded packet verifies when that field holds the checksum. The sum of a buffer and the check of a
decoded packet go over different pieces, which `verifies_parts` brings together. The main statement is
`ofPacket_agrees`. -/
namespace Sctp

theorem octets32_injective : Function.Injective octets32 := by
  intro left right same
  obtain ⟨a,rest⟩ := List.cons.inj same
  obtain ⟨b,rest⟩ := List.cons.inj rest
  obtain ⟨c,rest⟩ := List.cons.inj rest
  rw [← word32_octets32 left,a,b,c,(List.cons.inj rest).1,word32_octets32]

theorem Packet.octets_of_decode {octets : Bytes} {packet : Packet} (decoded : decode octets = .ok packet) :
    packet.header.octets ++ packet.area = octets := by
  unfold decode at decoded
  split at decoded
  · rename_i header area found
    obtain rfl := Except.ok.inj decoded
    exact Header.octets_of_read? _ _ _ found
  · cases decoded

namespace Checksum

/-- The sum of a message that is divided bit by bit, starting from a register of ones. -/
def bitwise (octets : Bytes) : UInt32 := (bits octets).foldl clock 0xFFFFFFFF

def field (packet : Bytes) : Bytes := slice packet 8 12

def withField (field packet : Bytes) : Bytes := packet.take 8 ++ field ++ packet.drop 12

def cleared (packet : Bytes) : Bytes :=
  if Header.size ≤ packet.length then withField [0, 0, 0, 0] packet else packet

theorem octets32_reversed (word : UInt32) : octets32 (reversed word) = (octets32 word).reverse :=
  octets32_word32 _ _ _ _

theorem ofPacket_of_whole {packet : Bytes} (whole : Header.size ≤ packet.length) :
    ofPacket packet =
      finish (update (update (update initial (packet.take 8)) [0, 0, 0, 0]) (packet.drop 12)) := by
  have long : ¬ (packet.take 12).length < 12 := by
    rw [List.length_take]
    unfold Header.size at whole
    omega
  exact if_neg long

theorem ofPacket_eq_update (packet : Bytes) : ofPacket packet = finish (update initial (cleared packet)) := by
  unfold cleared
  split
  · rename_i whole
    rw [ofPacket_of_whole whole,withField,update_append,update_append]
  · rename_i short
    have cut : (packet.take 12).length < 12 := by
      rw [List.length_take]
      unfold Header.size at short
      omega
    exact if_pos cut

theorem ofPacket_eq (packet : Bytes) : ofPacket packet = finish (bitwise (cleared packet)) := by
  rw [ofPacket_eq_update,update_eq_clock]
  rfl

theorem parts_of_whole {packet : Bytes} (whole : Header.size ≤ packet.length) :
    ∃ front sum area, packet = front ++ sum ++ area ∧ front.length = 8 ∧ sum.length = 4 := by
  unfold Header.size at whole
  refine ⟨packet.take 8,(packet.drop 8).take 4,packet.drop 12,?_,?_,?_⟩
  · have later : packet.drop 12 = (packet.drop 8).drop 4 := by rw [List.drop_drop]
    rw [List.append_assoc,later,List.take_append_drop,List.take_append_drop]
  · exact List.length_take_of_le (by omega)
  · rw [List.length_take,List.length_drop]
    omega

section Parts
variable {front sum : Bytes} (area : Bytes) (eight : front.length = 8) (four : sum.length = 4)
include eight four

omit four in
theorem take_parts : (front ++ sum ++ area).take 8 = front := by
  rw [List.append_assoc,← eight,List.take_left]

theorem drop_parts : (front ++ sum ++ area).drop 12 = area := by
  have twelve : (front ++ sum).length = 12 := by rw [List.length_append,eight,four]
  rw [← twelve,List.drop_left]

theorem field_parts : field (front ++ sum ++ area) = sum := by
  have twelve : (front ++ sum).length = 12 := by rw [List.length_append,eight,four]
  rw [field,slice,← twelve,List.take_left,← eight,List.drop_left]

theorem whole_parts : Header.size ≤ (front ++ sum ++ area).length := by
  rw [List.length_append,List.length_append,eight,four]
  exact Nat.le_add_right _ _

theorem withField_parts (other : Bytes) : withField other (front ++ sum ++ area) = front ++ other ++ area := by
  rw [withField,take_parts area eight,drop_parts area eight four]

theorem ofPacket_parts : ofPacket (front ++ sum ++ area) =
    finish (update (update (update initial front) [0, 0, 0, 0]) area) := by
  rw [ofPacket_of_whole (whole_parts area eight four),take_parts area eight,drop_parts area eight four]

/-- A decoded packet shows the three parts, and it is checked from two of them against the third. -/
theorem verifies_parts : ∃ packet, Packet.decode (front ++ sum ++ area) = .ok packet ∧
    (packet.verifies = true ↔ octets32 (ofPacket (front ++ sum ++ area)) = sum) := by
  obtain ⟨header,rest,decoded⟩ := Packet.decode_of_size_le _ (whole_parts area eight four)
  refine ⟨_,decoded,?_⟩
  have octets : (header.addressing ++ octets32 header.checksum) ++ rest = front ++ sum ++ area :=
    Packet.octets_of_decode decoded
  obtain ⟨head,rfl⟩ := List.append_inj octets (by rw [List.length_append,List.length_append,eight,four]; rfl)
  obtain ⟨rfl,rfl⟩ := List.append_inj head eight.symm
  rw [ofPacket_parts _ eight four,octets32_injective.eq_iff]
  exact beq_iff_eq

end Parts

theorem decode_of_whole {octets : Bytes} (whole : Header.size ≤ octets.length) : ∃ packet,
    Packet.decode octets = .ok packet ∧ (packet.verifies = true ↔ octets32 (ofPacket octets) = field octets) := by
  obtain ⟨front,sum,area,rfl,eight,four⟩ := parts_of_whole whole
  rw [field_parts area eight four]
  exact verifies_parts area eight four

/-- What the checksum of some octets is, and, for a whole packet, what its field has to do with it. -/
structure Agrees (octets : Bytes) : Prop where
  bitwise : octets32 (ofPacket octets) = (octets32 (~~~ bitwise (cleared octets))).reverse
  verifies : Header.size ≤ octets.length → ∃ packet, Packet.decode octets = .ok packet ∧
    (packet.verifies = true ↔ octets32 (ofPacket octets) = field octets)
  blind : Header.size ≤ octets.length → ∀ other, other.length = 4 →
    ofPacket (withField other octets) = ofPacket octets
  filled : Header.size ≤ octets.length → ∃ packet,
    Packet.decode (withField (octets32 (ofPacket octets)) octets) = .ok packet ∧ packet.verifies = true

theorem ofPacket_agrees (octets : Bytes) : Agrees octets where
  bitwise := by rw [ofPacket_eq,finish,octets32_reversed]
  verifies := decode_of_whole
  blind := by
    intro whole other fits
    obtain ⟨front,sum,area,rfl,eight,four⟩ := parts_of_whole whole
    rw [withField_parts area eight four,ofPacket_parts area eight fits,ofPacket_parts area eight four]
  filled := by
    intro whole
    obtain ⟨front,sum,area,rfl,eight,four⟩ := parts_of_whole whole
    have fits : (octets32 (ofPacket (front ++ sum ++ area))).length = 4 := rfl
    obtain ⟨packet,decoded,verifies⟩ := verifies_parts area eight fits
    rw [withField_parts area eight four]
    refine ⟨packet,decoded,verifies.mpr ?_⟩
    rw [ofPacket_parts area eight fits,ofPacket_parts area eight four]

example : ~~~ bitwise [0x31, 0x32, 0x33, 0x34, 0x35, 0x36, 0x37, 0x38, 0x39] = 0xE3069283 := by decide +kernel

end Checksum

end Sctp
