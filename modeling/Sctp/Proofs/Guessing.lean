import Sctp.Proofs.Encapsulation

/-! The link type that is guessed from the first octets of a frame. The guess goes through the layouts in a fixed
order, so that a frame is taken for one of its own layout only where it does not start as one of an earlier layout
(`Telling`). The main statement is `find?_guess`: of these frames the way down finds by the guess what it finds by
the true link type. -/
namespace Sctp.Frame

open LinkType (guess)

/-- An IPv4 version with a length of at least five words, or an IPv6 version. -/
def StartsRaw (frame : Bytes) : Prop :=
  ∃ lead rest, frame = lead :: rest ∧ (0x45 ≤ lead ∧ lead ≤ 0x4F ∨ 0x60 ≤ lead ∧ lead ≤ 0x6F)

def families : List UInt32 := [2, 10, 24, 28, 30]

/-- An address family in either byte order, and behind it a version of IP. -/
def StartsLoopback (frame : Bytes) : Prop :=
  ∃ family ∈ families, ∃ written version rest,
    (written = octets32 family ∨ written = (octets32 family).reverse) ∧
      frame = written ++ version :: rest ∧ (version / 16 = 4 ∨ version / 16 = 6)

/-- The frames of a link type that are not taken for those of another. In a cooked header these are the packet type,
the length of the link address, and the two octets that are the type of the payload in an Ethernet frame. -/
inductive Telling : LinkType → Bytes → Prop
  | rawIpv4 (frame : Bytes) : Telling .rawIpv4 frame
  | rawIpv6 (frame : Bytes) : Telling .rawIpv6 frame
  | null (frame : Bytes) : Telling .null frame
  | ethernet (frame : Bytes) (not_raw : ¬ StartsRaw frame) (not_loopback : ¬ StartsLoopback frame) :
    Telling .ethernet frame
  | cooked (kind device size beyond : UInt16) (address rest : Bytes) (six : address.length = 6)
    (kinds : kind ≤ 4) (sizes : size ≤ 8) (unknown : etherTypes.isKnown beyond.toNat = false) :
    Telling .cooked
      (octets16 kind ++ (octets16 device ++ (octets16 size ++ (address ++ (octets16 beyond ++ rest)))))
  | cookedV2 (front rest : Bytes) (kind size : UInt8) (beyond : UInt16) (ten : front.length = 10)
    (kinds : kind ≤ 4) (unknown : etherTypes.isKnown beyond.toNat = false) :
    Telling .cookedV2 (front ++ (kind :: size :: (octets16 beyond ++ rest)))

theorem looksRawIpv4_cons (lead : UInt8) (rest : Bytes) :
    LinkType.looksRawIpv4 (lead :: rest) = true ↔ 0x45 ≤ lead ∧ lead ≤ 0x4F := by
  rw [LinkType.looksRawIpv4,Bool.and_eq_true,beq_iff_eq,decide_eq_true_eq,← UInt8.toNat_inj,
    UInt8.le_iff_toNat_le,UInt8.le_iff_toNat_le,UInt8.le_iff_toNat_le,UInt8.toNat_div,UInt8.toNat_mod]
  change lead.toNat / 16 = 4 ∧ 5 ≤ lead.toNat % 16 ↔ 69 ≤ lead.toNat ∧ lead.toNat ≤ 79
  omega

theorem looksRawIpv6_cons (lead : UInt8) (rest : Bytes) :
    LinkType.looksRawIpv6 (lead :: rest) = true ↔ 0x60 ≤ lead ∧ lead ≤ 0x6F := by
  rw [LinkType.looksRawIpv6,beq_iff_eq,← UInt8.toNat_inj,UInt8.le_iff_toNat_le,UInt8.le_iff_toNat_le,
    UInt8.toNat_div]
  change lead.toNat / 16 = 6 ↔ 96 ≤ lead.toNat ∧ lead.toNat ≤ 111
  omega

/-- Neither layout without a link header is recognized. -/
theorem looksRaw_of_not {frame : Bytes} (not_raw : ¬ StartsRaw frame) :
    LinkType.looksRawIpv4 frame = false ∧ LinkType.looksRawIpv6 frame = false := by
  cases frame with
  | nil => exact ⟨rfl,rfl⟩
  | cons lead rest =>
    rw [Bool.eq_false_iff,Bool.eq_false_iff,Ne,Ne,looksRawIpv4_cons,looksRawIpv6_cons]
    exact ⟨fun four => not_raw ⟨lead,rest,rfl,.inl four⟩,fun six => not_raw ⟨lead,rest,rfl,.inr six⟩⟩

theorem isFamily_iff (family : UInt32) : LinkType.isFamily family = true ↔ family ∈ families :=
  List.contains_iff_mem

theorem looksNull_iff (frame : Bytes) : LinkType.looksNull frame = true ↔ StartsLoopback frame := by
  constructor
  · intro looks
    unfold LinkType.looksNull at looks
    split at looks
    · rename_i a b c d lead rest
      simp only [Bool.and_eq_true,Bool.or_eq_true,isFamily_iff,beq_iff_eq] at looks
      obtain ⟨big | little,version⟩ := looks
      · exact ⟨_,big,[a,b,c,d],lead,rest,.inl (octets32_word32 a b c d).symm,rfl,version⟩
      · refine ⟨_,little,[a,b,c,d],lead,rest,.inr ?_,rfl,version⟩
        rw [octets32_word32]
        rfl
    · cases looks
  · rintro ⟨family,known,_,version,rest,rfl | rfl,rfl,versions⟩
    all_goals
      simp only [octets32,List.reverse_cons,List.reverse_nil,List.cons_append,List.nil_append,LinkType.looksNull,
        word32_octets32,Bool.and_eq_true,Bool.or_eq_true,isFamily_iff,beq_iff_eq]
    · exact ⟨.inl known,versions⟩
    · exact ⟨.inr known,versions⟩

theorem looksNull_of_not {frame : Bytes} (not_loopback : ¬ StartsLoopback frame) :
    LinkType.looksNull frame = false := by
  rw [Bool.eq_false_iff,Ne,looksNull_iff]
  exact not_loopback

/-- A family starts with a zero octet or with its own number, none of which a frame of another layout starts with. -/
theorem first_of_family {family : UInt32} (known : family ∈ families) {written : Bytes}
    (order : written = octets32 family ∨ written = (octets32 family).reverse) :
    ∃ first rest, written = first :: rest ∧ first < 32 ∧ first ≠ 8 := by
  simp only [families,List.mem_cons,List.not_mem_nil,or_false] at known
  rcases known with rfl | rfl | rfl | rfl | rfl <;> rcases order with rfl | rfl <;>
    exact ⟨_,_,rfl,by decide,by decide⟩

theorem not_startsRaw_of_small {first : UInt8} {rest : Bytes} (small : first < 32) : ¬ StartsRaw (first :: rest) := by
  rintro ⟨lead,others,same,lowest | lowest⟩ <;> obtain ⟨rfl,-⟩ := List.cons.inj same
  · exact absurd (UInt8.lt_of_le_of_lt lowest.1 small) (by decide)
  · exact absurd (UInt8.lt_of_le_of_lt lowest.1 small) (by decide)

section Order
variable {frame : Bytes} (not_raw : ¬ StartsRaw frame)
include not_raw

theorem guess_of_loopback (loopback : StartsLoopback frame) : guess frame = .null := by
  obtain ⟨not_four,not_six⟩ := looksRaw_of_not not_raw
  rw [guess,not_four,not_six,(looksNull_iff frame).mpr loopback]
  rfl

variable (not_loopback : ¬ StartsLoopback frame)
include not_loopback

theorem guess_of_ethernet (looks : LinkType.looksEthernet frame = true) : guess frame = .ethernet := by
  obtain ⟨not_four,not_six⟩ := looksRaw_of_not not_raw
  rw [guess,not_four,not_six,looksNull_of_not not_loopback,looks]
  rfl

variable (not_ethernet : LinkType.looksEthernet frame = false)
include not_ethernet

theorem guess_of_cooked (looks : LinkType.looksCooked frame = true) : guess frame = .cooked := by
  obtain ⟨not_four,not_six⟩ := looksRaw_of_not not_raw
  rw [guess,not_four,not_six,looksNull_of_not not_loopback,not_ethernet,looks]
  rfl

theorem guess_of_cookedV2 (not_cooked : LinkType.looksCooked frame = false)
    (looks : LinkType.looksCookedV2 frame = true) : guess frame = .cookedV2 := by
  obtain ⟨not_four,not_six⟩ := looksRaw_of_not not_raw
  rw [guess,not_four,not_six,looksNull_of_not not_loopback,not_ethernet,not_cooked,looks]
  rfl

end Order

/-- The first octet of a packet fits the type that announced the packet. -/
def Versioned (etherType : UInt16) (lead : UInt8) : Prop :=
  etherType = ipv4Type ∧ 0x45 ≤ lead ∧ lead ≤ 0x4F ∨ etherType = ipv6Type ∧ 0x60 ≤ lead ∧ lead ≤ 0x6F

theorem exists_versioned {link : LinkType} {frame : Bytes} {found : Found} (frames : Encapsulates link frame found) :
    ∃ etherType lead rest, LinkPart link frame etherType (lead :: rest) ∧ Versioned etherType lead := by
  cases frames with
  | ipv4 packet src dst payload part inner =>
    cases inner with
    | intro lead service lifetime total fragmentation src dst identification checksum options rest two two' version
        words whole last first total_covers =>
      refine ⟨_,lead,_,part,.inl ⟨rfl,(looksRawIpv4_cons lead []).mp ?_⟩⟩
      rw [LinkType.looksRawIpv4,version,Bool.and_eq_true,decide_eq_true_eq]
      exact ⟨rfl,UInt8.le_iff_toNat_le.mpr words⟩
  | ipv6 packet src dst payload part inner =>
    cases inner with
    | intro lead f₀ f₁ f₂ next hops length src dst rest payload version chain =>
      refine ⟨_,lead,_,part,.inr ⟨rfl,(looksRawIpv6_cons lead []).mp ?_⟩⟩
      rw [LinkType.looksRawIpv6,version]
      rfl

theorem word16_of_octets16 {word : UInt16} {a b : UInt8} (written : octets16 word = [a,b]) : word16 a b = word := by
  simp only [octets16,List.cons.injEq,and_true] at written
  obtain ⟨rfl,rfl⟩ := written
  exact word16_octets16 word

theorem looksCookedV2_of_header {frame others : Bytes} {p q kind : UInt8} (first : frame.take 2 = [p,q])
    (header : (frame.take 20).drop 10 = kind :: others) (nine : others.length = 9) :
    LinkType.looksCookedV2 frame = (decide (kind ≤ 4) && LinkType.isCookedProtocol (word16 p q)) := by
  rw [LinkType.looksCookedV2,first,header]
  match others,nine with
  | [_,_,_,_,_,_,_,_,_],_ => rfl

section Layouts
variable {frame : Bytes} {etherType : UInt16} {lead : UInt8} {rest : Bytes} (versioned : Versioned etherType lead)
include versioned

theorem guess_of_raw (same : frame = lead :: rest) : guess frame = .rawIpv4 ∨ guess frame = .rawIpv6 := by
  subst same
  rcases versioned with ⟨-,four⟩ | ⟨-,six⟩
  · left
    rw [guess,(looksRawIpv4_cons lead rest).mpr four]
    rfl
  · by_cases four : LinkType.looksRawIpv4 (lead :: rest) = true
    · left
      rw [guess,four]
      rfl
    · right
      rw [guess,if_neg four,(looksRawIpv6_cons lead rest).mpr six]
      rfl

theorem version_of_versioned : lead / 16 = 4 ∨ lead / 16 = 6 := by
  rcases versioned with ⟨-,four⟩ | ⟨-,six⟩
  · left
    have looks := (looksRawIpv4_cons lead []).mpr four
    rw [LinkType.looksRawIpv4,Bool.and_eq_true,beq_iff_eq] at looks
    exact looks.1
  · right
    exact beq_iff_eq.mp ((looksRawIpv6_cons lead []).mpr six)

theorem guess_of_null (part : LinkPart .null frame etherType (lead :: rest)) : guess frame = .null := by
  cases part with
  | null family written packet etherType order means =>
    have known : family ∈ families := by
      rcases means with ⟨rfl,-⟩ | ⟨rfl | rfl | rfl | rfl,-⟩ <;> decide
    obtain ⟨first,others,rfl,small,-⟩ := first_of_family known order
    exact guess_of_loopback (not_startsRaw_of_small small)
      ⟨family,known,_,lead,rest,order,rfl,version_of_versioned versioned⟩

theorem known_of_tags {first : UInt16} {inner packet : Bytes} (tags : Tags first inner etherType packet) :
    etherTypes.isKnown first.toNat = true := by
  cases tags with
  | none =>
    rcases versioned with ⟨rfl,-⟩ | ⟨rfl,-⟩ <;> decide
  | tag first next etherType t₀ t₁ rest packet announces more =>
    rcases announces with rfl | rfl | rfl <;> decide

theorem looksEthernet_of_part (part : LinkPart .ethernet frame etherType (lead :: rest)) :
    LinkType.looksEthernet frame = true := by
  cases part with
  | ethernet addresses inner packet first etherType twelve tags =>
    simp only [LinkType.looksEthernet,List.drop_left' twelve,octets16,List.cons_append,List.nil_append,
      word16_octets16]
    exact known_of_tags versioned tags

theorem isCookedProtocol_of_versioned : LinkType.isCookedProtocol etherType = true := by
  rcases versioned with ⟨rfl,-⟩ | ⟨rfl,-⟩ <;> decide

theorem looksCooked_of_part (part : LinkPart .cooked frame etherType (lead :: rest)) {kind : UInt16} {behind : Bytes}
    (same : frame = octets16 kind ++ behind) (kinds : kind ≤ 4) : LinkType.looksCooked frame = true := by
  have first : frame.take 2 = octets16 kind := by
    rw [same]
    rfl
  have protocol : frame.drop 14 = octets16 etherType ++ lead :: rest := by
    cases part with
    | cooked front packet etherType fourteen => exact List.drop_left' fourteen
  simp only [LinkType.looksCooked,first,protocol,octets16,List.cons_append,List.nil_append,word16_octets16,
    isCookedProtocol_of_versioned versioned,kinds,decide_true,Bool.and_true]

/-- The numbers of the payloads are no packet types. -/
theorem not_looksCooked_of_type {behind : Bytes} (same : frame = octets16 etherType ++ behind) :
    LinkType.looksCooked frame = false := by
  have first : frame.take 2 = octets16 etherType := by
    rw [same]
    rfl
  have other : ¬ etherType ≤ 4 := by
    rcases versioned with ⟨rfl,-⟩ | ⟨rfl,-⟩ <;> decide
  rw [LinkType.looksCooked,first]
  split
  · rename_i a b p q _ written _
    rw [word16_of_octets16 written,decide_eq_false other,Bool.false_and]
  · rfl

theorem looksCookedV2_of_fields {back front behind : Bytes} {kind : UInt8} (eighteen : back.length = 18)
    (same : frame = octets16 etherType ++ (back ++ lead :: rest)) (fields : frame = front ++ kind :: behind)
    (ten : front.length = 10) (kinds : kind ≤ 4) : LinkType.looksCookedV2 frame = true := by
  have first : frame.take 2 = octets16 etherType := by
    rw [same]
    rfl
  have header : (frame.take 20).drop 10 = kind :: behind.take 9 := by
    rw [fields,List.drop_take,List.drop_left' ten,List.take_succ_cons]
  have nine : (behind.take 9).length = 9 := by
    have size := congrArg List.length (fields.symm.trans same)
    simp only [List.length_append,List.length_cons,ten,eighteen,octets16,List.length_nil] at size
    rw [List.length_take]
    omega
  rw [looksCookedV2_of_header first header nine,word16_octets16,isCookedProtocol_of_versioned versioned,
    decide_eq_true kinds]
  rfl

end Layouts

theorem not_looksEthernet {frame rest : Bytes} {beyond : UInt16} (behind : frame.drop 12 = octets16 beyond ++ rest)
    (unknown : etherTypes.isKnown beyond.toNat = false) : LinkType.looksEthernet frame = false := by
  simp only [LinkType.looksEthernet,behind,octets16,List.cons_append,List.nil_append,word16_octets16,unknown]

theorem octets16_of_small {word : UInt16} (small : word ≤ 8) : ∃ low, octets16 word = [0,low] := by
  have bound : word.toNat ≤ 8 := UInt16.le_iff_toNat_le.mp small
  have high : word.toNat / 256 = 0 := by omega
  refine ⟨UInt8.ofNat word.toNat,?_⟩
  rw [octets16,high]
  rfl

/-- A frame whose fifth octet is zero is no loopback frame. -/
theorem not_startsLoopback_of_zero {front rest : Bytes} (four : front.length = 4) :
    ¬ StartsLoopback (front ++ 0 :: rest) := by
  rintro ⟨family,known,written,version,others,order,same,versions⟩
  have size : front.length = written.length := by
    rcases order with rfl | rfl <;> exact four
  obtain ⟨-,behind⟩ := List.append_inj same size
  obtain ⟨rfl,-⟩ := List.cons.inj behind
  revert versions
  decide

theorem not_startsLoopback_of_first {first : UInt8} {rest : Bytes} (other : first = 8 ∨ 32 ≤ first) :
    ¬ StartsLoopback (first :: rest) := by
  rintro ⟨family,known,written,version,others,order,same,versions⟩
  obtain ⟨lead,more,rfl,small,not_eight⟩ := first_of_family known order
  obtain ⟨rfl,-⟩ := List.cons.inj same
  rcases other with eight | large
  · exact not_eight eight
  · exact absurd (UInt8.lt_of_lt_of_le small large) (UInt8.lt_irrefl _)

section Cooked
variable {frame : Bytes} {etherType : UInt16} {lead : UInt8} {packet : Bytes} (versioned : Versioned etherType lead)
include versioned

theorem guess_of_cooked_fields {kind device size beyond : UInt16} {address rest : Bytes}
    (part : LinkPart .cooked frame etherType (lead :: packet))
    (fields : frame = octets16 kind ++ (octets16 device ++ (octets16 size ++ (address ++ (octets16 beyond ++ rest)))))
    (six : address.length = 6) (kinds : kind ≤ 4) (sizes : size ≤ 8)
    (unknown : etherTypes.isKnown beyond.toNat = false) : guess frame = .cooked := by
  have looks := looksCooked_of_part versioned part fields kinds
  have behind : frame.drop 12 = octets16 beyond ++ rest := by
    rw [fields]
    exact List.drop_left' six
  have not_ethernet := not_looksEthernet behind unknown
  obtain ⟨low,kind_octets⟩ := octets16_of_small (UInt16.le_trans kinds (by decide : (4 : UInt16) ≤ 8))
  obtain ⟨size_low,size_octets⟩ := octets16_of_small sizes
  have not_raw : ¬ StartsRaw frame := by
    rw [fields,kind_octets]
    exact not_startsRaw_of_small (by decide)
  have not_loopback : ¬ StartsLoopback frame := by
    rw [fields,size_octets,← List.append_assoc]
    exact not_startsLoopback_of_zero rfl
  exact guess_of_cooked not_raw not_loopback not_ethernet looks

theorem guess_of_cookedV2_fields {front rest : Bytes} {kind size : UInt8} {beyond : UInt16}
    (part : LinkPart .cookedV2 frame etherType (lead :: packet))
    (fields : frame = front ++ (kind :: size :: (octets16 beyond ++ rest)))
    (ten : front.length = 10) (kinds : kind ≤ 4) (unknown : etherTypes.isKnown beyond.toNat = false) :
    guess frame = .cookedV2 := by
  obtain ⟨back,eighteen,same⟩ : ∃ back, back.length = 18 ∧ frame = octets16 etherType ++ (back ++ lead :: packet) := by
    cases part with
    | cookedV2 back packet etherType eighteen => exact ⟨back,eighteen,rfl⟩
  have behind : frame.drop 12 = octets16 beyond ++ rest := by
    rw [fields,show 12 = 10 + 2 from rfl,← List.drop_drop,List.drop_left' ten]
    rfl
  obtain ⟨first,others,starts,not_raw_first,not_family⟩ : ∃ first others, frame = first :: others ∧
      ¬ (0x45 ≤ first ∧ first ≤ 0x4F ∨ 0x60 ≤ first ∧ first ≤ 0x6F) ∧ (first = 8 ∨ 32 ≤ first) := by
    rcases versioned with ⟨rfl,-⟩ | ⟨rfl,-⟩
    · exact ⟨8,_,same,by decide,by decide⟩
    · exact ⟨0x86,_,same,by decide,by decide⟩
  have not_raw : ¬ StartsRaw frame := by
    rintro ⟨octet,_,again,ranges⟩
    obtain ⟨rfl,-⟩ := List.cons.inj (starts.symm.trans again)
    exact not_raw_first ranges
  have not_loopback : ¬ StartsLoopback frame := by
    rw [starts]
    exact not_startsLoopback_of_first not_family
  exact guess_of_cookedV2 not_raw not_loopback (not_looksEthernet behind unknown)
    (not_looksCooked_of_type versioned same) (looksCookedV2_of_fields versioned eighteen same fields ten kinds)

end Cooked

/-- The link type itself is guessed, or one of the two without a link header for the other. -/
theorem guess_of_telling {link : LinkType} {frame : Bytes} {etherType : UInt16} {lead : UInt8} {rest : Bytes}
    (telling : Telling link frame) (versioned : Versioned etherType lead)
    (part : LinkPart link frame etherType (lead :: rest)) :
    guess frame = link ∨ (link = .rawIpv4 ∨ link = .rawIpv6) ∧ (guess frame = .rawIpv4 ∨ guess frame = .rawIpv6) := by
  cases telling with
  | rawIpv4 frame =>
    cases part with
    | rawIpv4 lead rest etherType version => exact .inr ⟨.inl rfl,guess_of_raw versioned rfl⟩
  | rawIpv6 frame =>
    cases part with
    | rawIpv6 lead rest etherType version => exact .inr ⟨.inr rfl,guess_of_raw versioned rfl⟩
  | null frame => exact .inl (guess_of_null versioned part)
  | ethernet frame not_raw not_loopback =>
    exact .inl (guess_of_ethernet not_raw not_loopback (looksEthernet_of_part versioned part))
  | cooked kind device size beyond address rest six kinds sizes unknown =>
    exact .inl (guess_of_cooked_fields versioned part rfl six kinds sizes unknown)
  | cookedV2 front rest kind size beyond ten kinds unknown =>
    exact .inl (guess_of_cookedV2_fields versioned part rfl ten kinds unknown)

/-- What the way down finds by the true link type it finds by the guess. -/
theorem find?_guess {link : LinkType} {frame : Bytes} {found : Found} (telling : Telling link frame)
    (way : find? link frame = .ok (some found)) : find? (guess frame) frame = .ok (some found) := by
  obtain ⟨etherType,lead,rest,part,versioned⟩ := exists_versioned ((find?_iff_encapsulates link frame found).mp way)
  rcases guess_of_telling telling versioned part with same | ⟨raw,guessed⟩
  · rw [same]
    exact way
  · have either : ∀ other, other = .rawIpv4 ∨ other = .rawIpv6 → find? other frame = find? link frame := by
      rintro other (rfl | rfl) <;> rcases raw with rfl | rfl <;> rfl
    rw [either _ guessed]
    exact way

/-- A COOKIE ACK over IPv4 behind a header of the second cooked layout. -/
def cookedCookieAck : Bytes :=
  [0x08, 0x00, 0, 0, 0, 0, 0, 3, 0, 1, 4, 6, 0x00, 0x11, 0x22, 0x33, 0x44, 0x55, 0, 0,
    0x45, 0, 0, 36, 0, 1, 0x40, 0, 64, 132, 0, 0, 10, 0, 0, 1, 10, 0, 0, 2,
    0x0B, 0x59, 0x0B, 0x5A, 0, 0, 0, 1, 0x58, 0xA5, 0x1C, 0x32, 11, 0, 0, 4]

theorem find?_guess_cookedCookieAck :
    Telling .cookedV2 cookedCookieAck ∧
      ∃ found, find? .cookedV2 cookedCookieAck = .ok (some found) ∧
        find? (guess cookedCookieAck) cookedCookieAck = .ok (some found) := by
  have telling : Telling .cookedV2 cookedCookieAck :=
    .cookedV2 (cookedCookieAck.take 10) (cookedCookieAck.drop 14) 4 6 0x0011 rfl (by decide) (by decide)
  exact ⟨telling,_,rfl,find?_guess telling rfl⟩

end Sctp.Frame
