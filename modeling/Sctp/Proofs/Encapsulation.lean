import Sctp.Frame
import Mathlib.Data.List.Basic
import Mathlib.Data.Nat.Bitwise

/-! The frames in which an SCTP packet is found, as a grammar: a link part that announces IPv4 or IPv6,
and behind it an IPv4 header or an IPv6 header with its chain of extensions. `find?_iff_encapsulates` says
that the way down finds a packet in exactly these frames, and which addresses and octets it finds. -/
namespace Sctp.Frame

/-- Any number of tags, from the type that announces the first to the type behind the last. -/
inductive Tags : UInt16 → Bytes → UInt16 → Bytes → Prop
  | none (etherType : UInt16) (packet : Bytes) : Tags etherType packet etherType packet
  | tag (first next etherType : UInt16) (t₀ t₁ : UInt8) (rest packet : Bytes)
    (announces : first = 0x8100 ∨ first = 0x88A8 ∨ first = 0x9100) (more : Tags next rest etherType packet) :
    Tags first (t₀ :: t₁ :: (octets16 next ++ rest)) etherType packet

def VersionType (version : UInt8) (etherType : UInt16) : Prop :=
  version = 4 ∧ etherType = ipv4Type ∨ version = 6 ∧ etherType = ipv6Type

def FamilyMeans (family : UInt32) (etherType : UInt16) : Prop :=
  family = 2 ∧ etherType = ipv4Type ∨
    (family = 10 ∨ family = 24 ∨ family = 28 ∨ family = 30) ∧ etherType = ipv6Type

/-- A link part, the frame that it starts, the type that it announces, and the packet behind it. -/
inductive LinkPart : LinkType → Bytes → UInt16 → Bytes → Prop
  | ethernet (addresses rest packet : Bytes) (first etherType : UInt16) (twelve : addresses.length = 12)
    (tags : Tags first rest etherType packet) :
    LinkPart .ethernet (addresses ++ (octets16 first ++ rest)) etherType packet
  | cooked (front packet : Bytes) (etherType : UInt16) (fourteen : front.length = 14) :
    LinkPart .cooked (front ++ (octets16 etherType ++ packet)) etherType packet
  | cookedV2 (back packet : Bytes) (etherType : UInt16) (eighteen : back.length = 18) :
    LinkPart .cookedV2 (octets16 etherType ++ (back ++ packet)) etherType packet
  | null (family : UInt32) (written packet : Bytes) (etherType : UInt16)
    (order : written = octets32 family ∨ written = (octets32 family).reverse)
    (means : FamilyMeans family etherType) :
    LinkPart .null (written ++ packet) etherType packet
  | rawIpv4 (lead : UInt8) (rest : Bytes) (etherType : UInt16) (version : VersionType (lead / 16) etherType) :
    LinkPart .rawIpv4 (lead :: rest) etherType (lead :: rest)
  | rawIpv6 (lead : UInt8) (rest : Bytes) (etherType : UInt16) (version : VersionType (lead / 16) etherType) :
    LinkPart .rawIpv6 (lead :: rest) etherType (lead :: rest)

/-- An unfragmented IPv4 packet that carries SCTP. What the total length leaves behind the header is the
payload, and all that is there if the total length is zero. -/
inductive Ipv4Part : Bytes → Ipv4 → Ipv4 → Bytes → Prop
  | intro (lead service lifetime : UInt8) (total fragmentation : UInt16) (src dst : Ipv4)
    (identification checksum options rest : Bytes)
    (two : identification.length = 2) (two' : checksum.length = 2)
    (version : lead / 16 = 4) (words : 5 ≤ (lead % 16).toNat)
    (whole : options.length = 4 * (lead % 16).toNat - 20)
    (last : fragmentation &&& 0x2000 = 0) (first : fragmentation &&& 0x1FFF = 0)
    (total_covers : total = 0 ∨ 4 * (lead % 16).toNat ≤ total.toNat) :
    Ipv4Part
      (lead :: service :: (octets16 total ++ (identification ++ (octets16 fragmentation ++
        (lifetime :: 132 :: (checksum ++ (src.octets ++ (dst.octets ++ (options ++ rest)))))))))
      src dst (if total = 0 then rest else rest.take (total.toNat - 4 * (lead % 16).toNat))

/-- A chain of extension headers that ends with SCTP: the number of the next header, the area it starts,
and what is behind the chain. -/
inductive Chain : UInt8 → Bytes → Bytes → Prop
  | sctp (payload : Bytes) : Chain 132 payload payload
  | extension (next following units : UInt8) (content rest payload : Bytes)
    (passes : next = 0 ∨ next = 43 ∨ next = 60) (size : 2 + content.length = (units.toNat + 1) * 8)
    (more : Chain following rest payload) :
    Chain next (following :: units :: (content ++ rest)) payload

/-- An IPv6 packet that carries SCTP. A payload length other than zero bounds the area of the chain. -/
inductive Ipv6Part : Bytes → Ipv6 → Ipv6 → Bytes → Prop
  | intro (lead f₀ f₁ f₂ next hops : UInt8) (length : UInt16) (src dst : Ipv6) (rest payload : Bytes)
    (version : lead / 16 = 6)
    (chain : Chain next (if length = 0 then rest else rest.take length.toNat) payload) :
    Ipv6Part
      (lead :: f₀ :: f₁ :: f₂ :: (octets16 length ++ (next :: hops :: (src.octets ++ (dst.octets ++ rest)))))
      src dst payload

inductive Encapsulates (link : LinkType) (frame : Bytes) : Found → Prop
  | ipv4 (packet : Bytes) (src dst : Ipv4) (payload : Bytes) (part : LinkPart link frame ipv4Type packet)
    (inner : Ipv4Part packet src dst payload) : Encapsulates link frame ⟨.v4 src,.v4 dst,payload⟩
  | ipv6 (packet : Bytes) (src dst : Ipv6) (payload : Bytes) (part : LinkPart link frame ipv6Type packet)
    (inner : Ipv6Part packet src dst payload) : Encapsulates link frame ⟨.v6 src,.v6 dst,payload⟩

theorem isTag_iff (etherType : UInt16) :
    isTag etherType = true ↔ etherType = 0x8100 ∨ etherType = 0x88A8 ∨ etherType = 0x9100 := by
  simp [isTag]

theorem skipTags_eq_ok_iff (first etherType : UInt16) (rest packet : Bytes) (plain : isTag etherType = false) :
    skipTags first rest = .ok (etherType,packet) ↔ Tags first rest etherType packet := by
  constructor
  · intro found
    fun_induction skipTags first rest with
    | case1 first tagged t₀ t₁ a b inner ih =>
      have more := Tags.tag first _ etherType t₀ t₁ inner packet ((isTag_iff first).mp tagged) (ih found)
      rwa [octets16_word16] at more
    | case2 => cases found
    | case3 first rest untagged =>
      cases found
      exact .none _ _
  · intro tags
    induction tags with
    | none etherType packet =>
      rw [skipTags.eq_def,plain]
      rfl
    | tag first next etherType t₀ t₁ rest packet announces more ih =>
      have tagged := (isTag_iff first).mpr announces
      rw [skipTags.eq_def,tagged]
      simpa only [if_true,octets16,List.cons_append,List.nil_append,word16_octets16] using ih plain

theorem split_at {octets tail : Bytes} {first : UInt8} {count : Nat}
    (there : octets.drop count = first :: tail) :
    ∃ front, front.length = count ∧ octets = front ++ first :: tail := by
  refine ⟨octets.take count,?_,?_⟩
  · have size := congrArg List.length there
    rw [List.length_drop,List.length_cons] at size
    rw [List.length_take]
    omega
  · rw [← there,List.take_append_drop]

theorem familyType?_eq_some_iff (family : UInt32) (etherType : UInt16) :
    familyType? family = some etherType ↔ FamilyMeans family etherType := by
  unfold familyType? FamilyMeans
  split
  · rename_i two
    simp [two,eq_comm]
  · rename_i other
    split
    · rename_i six
      simp [other,six,eq_comm]
    · rename_i none
      simp [other,none]

/-- A family stands in the header in either byte order; no octets mean one in each. -/
theorem nullType_eq_iff (a b c d : UInt8) (etherType : UInt16) (some_type : etherType ≠ 0) :
    nullType a b c d = etherType ↔ ∃ family, familyType? family = some etherType ∧
      ([a,b,c,d] = octets32 family ∨ [a,b,c,d] = (octets32 family).reverse) := by
  constructor
  · intro found
    unfold nullType at found
    split at found
    · rename_i known
      exact ⟨word32 d c b a,found ▸ known,Or.inr (by rw [octets32_word32]; rfl)⟩
    · cases known : familyType? (word32 a b c d) with
      | none =>
        rw [known] at found
        exact absurd found.symm some_type
      | some other =>
        rw [known] at found
        exact ⟨word32 a b c d,found ▸ known,Or.inl (octets32_word32 a b c d).symm⟩
  · rintro ⟨family,known,big | little⟩
    · have same : word32 a b c d = family := by
        rw [← word32_octets32 family]
        simp only [octets32,List.cons.injEq] at big
        rw [big.1,big.2.1,big.2.2.1,big.2.2.2.1]
      -- The other order is tried first; turned round, none of the families is a family.
      have other : familyType? (word32 d c b a) = none := by
        obtain ⟨rfl,-⟩ | ⟨rfl | rfl | rfl | rfl,-⟩ := (familyType?_eq_some_iff family etherType).mp known
        all_goals
          simp only [octets32,List.cons.injEq] at big
          obtain ⟨rfl,rfl,rfl,rfl,-⟩ := big
          decide
      rw [nullType,other,same,known]
      rfl
    · have same : word32 d c b a = family := by
        rw [← word32_octets32 family]
        simp only [octets32,List.reverse_cons,List.reverse_nil,List.nil_append,List.cons_append,
          List.cons.injEq] at little
        rw [little.1,little.2.1,little.2.2.1,little.2.2.2.1]
      rw [nullType,same,known]

theorem network_ethernet_iff (frame : Bytes) (etherType : UInt16) (packet : Bytes)
    (plain : isTag etherType = false) :
    network .ethernet frame = .ok (etherType,packet) ↔ LinkPart .ethernet frame etherType packet := by
  constructor
  · intro found
    simp only [network] at found
    split at found
    · rename_i a b rest there
      obtain ⟨addresses,twelve,rfl⟩ := split_at there
      have part := LinkPart.ethernet addresses rest packet _ etherType twelve
        ((skipTags_eq_ok_iff _ etherType rest packet plain).mp found)
      rwa [octets16_word16] at part
    · cases found
  · rintro ⟨addresses,rest,_,first,_,twelve,tags⟩
    have found := (skipTags_eq_ok_iff first etherType rest packet plain).mpr tags
    simpa only [network,List.drop_left' twelve,octets16,List.cons_append,List.nil_append,
      word16_octets16] using found

theorem network_cooked_iff (frame : Bytes) (etherType : UInt16) (packet : Bytes) :
    network .cooked frame = .ok (etherType,packet) ↔ LinkPart .cooked frame etherType packet := by
  constructor
  · intro found
    simp only [network] at found
    split at found
    · rename_i a b rest there
      obtain ⟨front,fourteen,rfl⟩ := split_at there
      cases found
      have part := LinkPart.cooked front packet (word16 a b) fourteen
      rwa [octets16_word16] at part
    · cases found
  · rintro ⟨⟩
    rename_i front fourteen
    simp only [network,List.drop_left' fourteen,octets16,List.cons_append,List.nil_append,
      word16_octets16]

theorem network_cookedV2_iff (frame : Bytes) (etherType : UInt16) (packet : Bytes) :
    network .cookedV2 frame = .ok (etherType,packet) ↔ LinkPart .cookedV2 frame etherType packet := by
  constructor
  · intro found
    simp only [network] at found
    split at found
    · rename_i a b header there
      split at found
      · cases found
      · rename_i whole
        cases found
        have size := congrArg List.length there
        rw [List.length_take,List.length_cons,List.length_cons] at size
        have part := LinkPart.cookedV2 header (frame.drop 20) (word16 a b) (by omega)
        rwa [octets16_word16,← List.append_assoc,show [a,b] ++ header = frame.take 20 from there.symm,
          List.take_append_drop] at part
    · cases found
  · rintro ⟨⟩
    rename_i back eighteen
    have taken : ∀ a b, (a :: b :: (back ++ packet)).take 20 = a :: b :: back := by
      intro a b
      rw [List.take_succ_cons,List.take_succ_cons,List.take_left' eighteen]
    have dropped : ∀ a b, (a :: b :: (back ++ packet)).drop 20 = packet := by
      intro a b
      rw [List.drop_succ_cons,List.drop_succ_cons,List.drop_left' eighteen]
    simp only [network,octets16,List.cons_append,List.nil_append,taken,dropped,eighteen,Nat.lt_irrefl,
      if_false,word16_octets16]

theorem network_null_iff (frame : Bytes) (etherType : UInt16) (packet : Bytes) (some_type : etherType ≠ 0) :
    network .null frame = .ok (etherType,packet) ↔ LinkPart .null frame etherType packet := by
  constructor
  · intro found
    simp only [network] at found
    split at found
    · rename_i a b c d rest
      cases found
      obtain ⟨family,known,order⟩ := (nullType_eq_iff a b c d _ some_type).mp rfl
      exact .null family [a,b,c,d] packet _ order ((familyType?_eq_some_iff _ _).mp known)
    · cases found
  · intro part
    cases part with
    | null family written packet etherType order means =>
      obtain ⟨a,b,c,d,rfl⟩ : ∃ a b c d, written = [a,b,c,d] := by
        rcases order with rfl | rfl <;> exact ⟨_,_,_,_,rfl⟩
      have announced := (nullType_eq_iff a b c d etherType some_type).mpr
        ⟨family,(familyType?_eq_some_iff _ _).mpr means,order⟩
      simp only [network,List.cons_append,List.nil_append,announced]

theorem version_iff (lead : UInt8) (rest : Bytes) (etherType : UInt16) (packet : Bytes) :
    (if lead / 16 = 4 then Except.ok (ipv4Type,lead :: rest)
      else if lead / 16 = 6 then .ok (ipv6Type,lead :: rest)
      else .error (HeaderError.invalid .rawIpVersion)) = .ok (etherType,packet) ↔
      packet = lead :: rest ∧ VersionType (lead / 16) etherType := by
  unfold VersionType
  split
  · rename_i four
    simp [four,eq_comm,and_comm]
  · rename_i other
    split
    · rename_i six
      simp [six,eq_comm,and_comm]
    · rename_i none
      simp [other,none]

theorem network_rawIpv4_iff (frame : Bytes) (etherType : UInt16) (packet : Bytes) :
    network .rawIpv4 frame = .ok (etherType,packet) ↔ LinkPart .rawIpv4 frame etherType packet := by
  constructor
  · intro found
    simp only [network] at found
    split at found
    · rename_i lead rest
      obtain ⟨rfl,version⟩ := (version_iff lead rest etherType packet).mp found
      exact .rawIpv4 lead rest etherType version
    · cases found
  · intro part
    cases part with
    | rawIpv4 lead rest etherType version => exact (version_iff lead rest etherType _).mpr ⟨rfl,version⟩

theorem network_rawIpv6_iff (frame : Bytes) (etherType : UInt16) (packet : Bytes) :
    network .rawIpv6 frame = .ok (etherType,packet) ↔ LinkPart .rawIpv6 frame etherType packet := by
  constructor
  · intro found
    simp only [network] at found
    split at found
    · rename_i lead rest
      obtain ⟨rfl,version⟩ := (version_iff lead rest etherType packet).mp found
      exact .rawIpv6 lead rest etherType version
    · cases found
  · intro part
    cases part with
    | rawIpv6 lead rest etherType version => exact (version_iff lead rest etherType _).mpr ⟨rfl,version⟩

theorem network_eq_ok_iff (link : LinkType) (frame : Bytes) (etherType : UInt16) (packet : Bytes)
    (layer : etherType = ipv4Type ∨ etherType = ipv6Type) :
    network link frame = .ok (etherType,packet) ↔ LinkPart link frame etherType packet := by
  have plain : isTag etherType = false := by
    rcases layer with rfl | rfl <;> decide
  have some_type : etherType ≠ 0 := by
    rcases layer with rfl | rfl <;> decide
  cases link with
  | ethernet => exact network_ethernet_iff frame etherType packet plain
  | cooked => exact network_cooked_iff frame etherType packet
  | cookedV2 => exact network_cookedV2_iff frame etherType packet
  | null => exact network_null_iff frame etherType packet some_type
  | rawIpv4 => exact network_rawIpv4_iff frame etherType packet
  | rawIpv6 => exact network_rawIpv6_iff frame etherType packet

theorem isExtension_iff (next : UInt8) : isExtension next = true ↔ next = 0 ∨ next = 43 ∨ next = 60 := by
  simp [isExtension,or_assoc]

theorem skipExtensions_eq_ok_iff (next : UInt8) (area inner : Bytes) :
    skipExtensions next area = .ok (some inner) ↔ Chain next area inner := by
  constructor
  · intro found
    fun_induction skipExtensions next area with
    | case1 area =>
      cases found
      exact .sctp _
    | case2 => cases found
    | case3 next other passes following units rest length enough ih =>
      have size : (rest.take length).length = length := by
        have bound := List.length_take_le length rest
        omega
      have more := Chain.extension next following units (rest.take length) (rest.drop length) inner
        ((isExtension_iff next).mp passes) (by omega) (ih found)
      rwa [List.take_append_drop] at more
    | case4 => cases found
    | case5 => cases found
  · intro chain
    induction chain with
    | sctp payload =>
      rw [skipExtensions.eq_def]
      rfl
    | extension next following units content rest payload passes size more ih =>
      have other : next ≠ sctpProtocol := by
        rcases passes with rfl | rfl | rfl <;> decide
      have length : units.toNat * 8 + 6 = content.length := by omega
      rw [skipExtensions.eq_def,if_neg other,if_pos ((isExtension_iff next).mpr passes)]
      simpa only [length,List.take_left,List.drop_left,Nat.lt_irrefl,if_false] using ih

theorem isFragment_eq_false_iff (header : Ipv4Header) :
    header.isFragment = false ↔ header.fragmentation &&& 0x2000 = 0 ∧ header.fragmentation &&& 0x1FFF = 0 := by
  have more := Nat.and_two_pow header.fragmentation.toNat 13
  have offset := Nat.and_two_pow_sub_one_eq_mod header.fragmentation.toNat 13
  have bits : header.isFragment = false ↔ header.fragmentation.toNat % 16384 = 0 := by
    simp only [Ipv4Header.isFragment,bne_eq_false_iff_eq,← UInt16.toNat_inj]
    exact Iff.rfl
  rw [bits,← UInt16.toNat_inj,← UInt16.toNat_inj,UInt16.toNat_and,UInt16.toNat_and]
  change _ ↔ header.fragmentation.toNat &&& 2 ^ 13 = 0 ∧ header.fragmentation.toNat &&& 2 ^ 13 - 1 = 0
  rw [more,offset,Nat.testBit_eq_decide_div_mod_eq]
  by_cases odd : header.fragmentation.toNat / 2 ^ 13 % 2 = 1
  · simp only [odd,decide_true,Bool.toNat_true]
    omega
  · simp only [odd,decide_false,Bool.toNat_false]
    omega

theorem isValid_iff (header : Ipv4Header) :
    header.isValid = true ↔ header.lead / 16 = 4 ∧ 5 ≤ (header.lead % 16).toNat := by
  rw [Ipv4Header.isValid,Bool.and_eq_true,beq_iff_eq,decide_eq_true_eq,Ipv4Header.length]
  have same : 20 ≤ (header.lead % 16).toNat * 4 ↔ 5 ≤ (header.lead % 16).toNat := by omega
  rw [same]

theorem read?_eq_some_iff (packet rest : Bytes) (header : Ipv4Header) :
    Ipv4Header.read? packet = some (header,rest) ↔
      ∃ service lifetime identification checksum, identification.length = 2 ∧ checksum.length = 2 ∧
        packet = header.lead :: service :: (octets16 header.totalLength ++ (identification ++
          (octets16 header.fragmentation ++ (lifetime :: header.protocol :: (checksum ++
            (header.src.octets ++ (header.dst.octets ++ rest))))))) := by
  constructor
  · intro found
    unfold Ipv4Header.read? at found
    split at found
    · rename_i lead service l₀ l₁ i₀ i₁ f₀ f₁ lifetime protocol c₀ c₁ s₀ s₁ s₂ s₃ d₀ d₁ d₂ d₃ behind
      cases found
      refine ⟨service,lifetime,[i₀,i₁],[c₀,c₁],rfl,rfl,?_⟩
      simp only [octets16_word16,List.cons_append,List.nil_append]
    · cases found
  · rintro ⟨service,lifetime,identification,checksum,two,two',rfl⟩
    obtain ⟨lead,total,fragmentation,protocol,⟨source,four⟩,⟨destination,four'⟩⟩ := header
    obtain ⟨i₀,i₁,rfl⟩ := List.length_eq_two.mp two
    obtain ⟨c₀,c₁,rfl⟩ := List.length_eq_two.mp two'
    obtain ⟨s₀,s₁,s₂,s₃,rfl⟩ : ∃ a b c d, source = [a,b,c,d] := List.length_eq_four.mp four
    obtain ⟨d₀,d₁,d₂,d₃,rfl⟩ : ∃ a b c d, destination = [a,b,c,d] := List.length_eq_four.mp four'
    simp only [octets16,List.cons_append,List.nil_append,Ipv4Header.read?,word16_octets16]

theorem carries_iff (header : Ipv4Header) :
    (header.isFragment || header.protocol != sctpProtocol) = false ↔
      header.isFragment = false ∧ header.protocol = 132 := by
  rw [Bool.or_eq_false_iff,bne_eq_false_iff_eq]
  exact Iff.rfl

/-- What is checked of an IPv4 packet, one condition for each branch that it has to pass. -/
structure Passes (header : Ipv4Header) (rest : Bytes) : Prop where
  valid : header.isValid = true
  enough : header.length - 20 ≤ rest.length
  whole : header.isFragment = false
  protocol : header.protocol = 132
  covers : header.totalLength = 0 ∨ header.length ≤ header.totalLength.toNat

/-- The octets behind the options, as far as the total length goes. -/
def payload (header : Ipv4Header) (rest : Bytes) : Bytes :=
  if header.totalLength = 0 then rest.drop (header.length - 20)
  else (rest.drop (header.length - 20)).take (header.totalLength.toNat - header.length)

theorem throughIpv4_eq_ok_iff (packet : Bytes) (found : Found) :
    throughIpv4 packet = .ok (some found) ↔
      ∃ header rest, Ipv4Header.read? packet = some (header,rest) ∧ Passes header rest ∧
        found = ⟨.v4 header.src,.v4 header.dst,payload header rest⟩ := by
  constructor
  · intro through
    simp only [throughIpv4] at through
    split at through
    · cases through
    rename_i header rest there
    split at through
    · cases through
    rename_i valid
    split at through
    · cases through
    rename_i enough
    split at through
    · cases through
    rename_i carries
    obtain ⟨whole,protocol⟩ := (carries_iff header).mp (by simpa using carries)
    have valid : header.isValid = true := by simpa using valid
    have enough : header.length - 20 ≤ rest.length := by
      rw [List.length_take] at enough
      omega
    refine ⟨header,rest,there,?_⟩
    split at through
    · rename_i zero
      cases through
      exact ⟨⟨valid,enough,whole,protocol,.inl zero⟩,by rw [payload,if_pos zero]⟩
    · rename_i bounded
      split at through
      · cases through
      rename_i covers
      cases through
      exact ⟨⟨valid,enough,whole,protocol,.inr (Nat.not_lt.mp covers)⟩,by rw [payload,if_neg bounded]⟩
  · rintro ⟨header,rest,there,passes,rfl⟩
    have carries := (carries_iff header).mpr ⟨passes.whole,passes.protocol⟩
    have taken : ¬ (rest.take (header.length - 20)).length < header.length - 20 := by
      rw [List.length_take,Nat.min_eq_left passes.enough]
      exact Nat.lt_irrefl _
    simp only [throughIpv4,there,passes.valid,carries,if_neg taken,Bool.not_true,Bool.false_eq_true,if_false,payload]
    split
    · rfl
    · rename_i bounded
      rw [if_neg (Nat.not_lt.mpr (passes.covers.resolve_left bounded))]

theorem throughIpv4_iff_part (packet : Bytes) (found : Found) :
    throughIpv4 packet = .ok (some found) ↔
      ∃ src dst payload, found = ⟨.v4 src,.v4 dst,payload⟩ ∧ Ipv4Part packet src dst payload := by
  rw [throughIpv4_eq_ok_iff]
  constructor
  · rintro ⟨header,rest,there,passes,rfl⟩
    obtain ⟨service,lifetime,identification,checksum,two,two',rfl⟩ := (read?_eq_some_iff _ _ _).mp there
    obtain ⟨version,words⟩ := (isValid_iff header).mp passes.valid
    obtain ⟨last,first⟩ := (isFragment_eq_false_iff header).mp passes.whole
    have length : header.length = 4 * (header.lead % 16).toNat := Nat.mul_comm _ _
    have whole : (rest.take (header.length - 20)).length = 4 * (header.lead % 16).toNat - 20 := by
      rw [List.length_take,Nat.min_eq_left passes.enough,length]
    have part := Ipv4Part.intro header.lead service lifetime header.totalLength header.fragmentation header.src
      header.dst identification checksum (rest.take (header.length - 20)) (rest.drop (header.length - 20)) two
      two' version words whole last first (by rw [← length]; exact passes.covers)
    rw [List.take_append_drop,← passes.protocol,← length] at part
    exact ⟨header.src,header.dst,_,rfl,part⟩
  · rintro ⟨src,dst,payload,rfl,part⟩
    cases part with
    | intro lead service lifetime total fragmentation src dst identification checksum options rest two two'
        version words whole last first total_covers =>
      have length : Ipv4Header.length ⟨lead,total,fragmentation,132,src,dst⟩ = 4 * (lead % 16).toNat :=
        Nat.mul_comm _ _
      refine ⟨⟨lead,total,fragmentation,132,src,dst⟩,options ++ rest,?_,?_,?_⟩
      · exact (read?_eq_some_iff _ _ _).mpr ⟨service,lifetime,identification,checksum,two,two',rfl⟩
      · refine ⟨(isValid_iff _).mpr ⟨version,words⟩,?_,(isFragment_eq_false_iff _).mpr ⟨last,first⟩,rfl,?_⟩
        · rw [length,← whole,List.length_append]
          exact Nat.le_add_right _ _
        · rw [length]
          exact total_covers
      · rw [payload,length,List.drop_left' whole]

theorem area_eq (length : UInt16) (rest : Bytes) :
    (if length.toNat = 0 then rest else rest.take length.toNat) =
      if length = 0 then rest else rest.take length.toNat := by
  simp only [← UInt16.toNat_inj,UInt16.toNat_zero]

theorem ofPrefix?_eq_some_iff (octets : Bytes) (address : Ipv6) :
    Ipv6.ofPrefix? octets = some address ↔ ∃ rest, octets = address.octets ++ rest := by
  constructor
  · intro found
    unfold Ipv6.ofPrefix? at found
    split at found
    · cases found
      exact ⟨octets.drop 16,(List.take_append_drop 16 octets).symm⟩
    · cases found
  · rintro ⟨rest,rfl⟩
    obtain ⟨octets,sixteen⟩ := address
    have enough : 16 ≤ (octets ++ rest).length := by
      rw [List.length_append]
      omega
    simp only [Ipv6.ofPrefix?,dif_pos enough,List.take_left' sixteen]

theorem throughIpv6_eq_ok_iff (packet : Bytes) (found : Found) :
    throughIpv6 packet = .ok (some found) ↔
      ∃ src dst payload, found = ⟨.v6 src,.v6 dst,payload⟩ ∧ Ipv6Part packet src dst payload := by
  constructor
  · intro through
    unfold throughIpv6 at through
    split at through
    · rename_i lead f₀ f₁ f₂ l₀ l₁ next hops rest
      split at through
      · rename_i src dst source destination
        obtain ⟨behind,rfl⟩ := (ofPrefix?_eq_some_iff _ _).mp source
        rw [List.drop_left' src.size] at destination
        obtain ⟨rest,rfl⟩ := (ofPrefix?_eq_some_iff _ _).mp destination
        split at through
        · cases through
        rename_i version
        have version : lead / 16 = 6 := by simpa using version
        have behind : (src.octets ++ (dst.octets ++ rest)).drop 32 = rest := by
          rw [← List.append_assoc,List.drop_left' (by rw [List.length_append,src.size,dst.size])]
        simp only [behind,area_eq] at through
        split at through
        · rename_i inner chain
          cases through
          have part := Ipv6Part.intro lead f₀ f₁ f₂ next hops (word16 l₀ l₁) src dst rest inner version
            ((skipExtensions_eq_ok_iff _ _ _).mp chain)
          rw [octets16_word16] at part
          exact ⟨src,dst,inner,rfl,part⟩
        · cases through
        · cases through
      · cases through
    · cases through
  · rintro ⟨src,dst,payload,rfl,part⟩
    cases part with
    | intro lead f₀ f₁ f₂ next hops length src dst rest payload version chain =>
      have source := (ofPrefix?_eq_some_iff (src.octets ++ (dst.octets ++ rest)) src).mpr ⟨_,rfl⟩
      have destination := (ofPrefix?_eq_some_iff (dst.octets ++ rest) dst).mpr ⟨_,rfl⟩
      have behind : (src.octets ++ (dst.octets ++ rest)).drop 32 = rest := by
        rw [← List.append_assoc,List.drop_left' (by rw [List.length_append,src.size,dst.size])]
      have leads := (skipExtensions_eq_ok_iff _ _ _).mpr chain
      simp only [throughIpv6,octets16,List.cons_append,List.nil_append,source,List.drop_left' src.size,
        destination,version,behind,word16_octets16,area_eq,leads,bne_self_eq_false,Bool.false_eq_true,if_false]

theorem find?_iff_encapsulates (link : LinkType) (frame : Bytes) (found : Found) :
    find? link frame = .ok (some found) ↔ Encapsulates link frame found := by
  constructor
  · intro way
    unfold find? at way
    split at way
    · cases way
    rename_i etherType packet announced
    split at way
    · rename_i four
      subst four
      obtain ⟨src,dst,payload,rfl,inner⟩ := (throughIpv4_iff_part packet found).mp way
      exact .ipv4 packet src dst payload ((network_eq_ok_iff _ _ _ _ (.inl rfl)).mp announced) inner
    split at way
    · rename_i six
      subst six
      obtain ⟨src,dst,payload,rfl,inner⟩ := (throughIpv6_eq_ok_iff packet found).mp way
      exact .ipv6 packet src dst payload ((network_eq_ok_iff _ _ _ _ (.inr rfl)).mp announced) inner
    · cases way
  · intro frames
    cases frames with
    | ipv4 packet src dst payload part inner =>
      have announced := (network_eq_ok_iff link frame ipv4Type packet (.inl rfl)).mpr part
      have through := (throughIpv4_iff_part packet _).mpr ⟨src,dst,payload,rfl,inner⟩
      simp only [find?,announced,if_true,through]
    | ipv6 packet src dst payload part inner =>
      have announced := (network_eq_ok_iff link frame ipv6Type packet (.inr rfl)).mpr part
      have through := (throughIpv6_eq_ok_iff packet _).mpr ⟨src,dst,payload,rfl,inner⟩
      have other : ipv6Type ≠ ipv4Type := by decide
      simp only [find?,announced,if_neg other,if_true,through]

end Sctp.Frame
