import Sctp.Proofs.Encapsulation

/-! Frames of which only the first octets are there. Each header asks for its octets before it looks at
them, so that a frame that is cut within a header is too short, and one that is cut behind all headers
leads to the same place (`CutLaw`). The law passes from what is behind a header to what starts with that
header (`CutLaw.of_front`), and so up from the payload to the frame. The main statement is `find?_take`. -/
namespace Sctp.Frame

/-- Some header is not there as a whole. -/
def IsTooShort (result : Except HeaderError (Option Found)) : Prop :=
  ∃ header, result = .error (.tooShort header)

/-- The octets that a length leaves, if there is one. -/
def bounded (limit : Option Nat) (octets : Bytes) : Bytes := limit.elim octets octets.take

theorem bounded_front (limit : Option Nat) (octets : Bytes) : bounded limit octets <+: octets := by
  cases limit with
  | none => exact List.prefix_rfl
  | some length => exact List.take_prefix _ _

theorem bounded_take (limit : Option Nat) (length : Nat) (octets : Bytes) :
    bounded limit (octets.take length) = (bounded limit octets).take length := by
  cases limit with
  | none => rfl
  | some bound =>
    change (octets.take length).take bound = (octets.take bound).take length
    rw [List.take_take,Nat.min_comm,← List.take_take]

/-- What a way down to SCTP makes of the first octets of something. Either there are headers with a payload
behind them: then these headers lead to whatever is behind them, and no fewer octets will do. Or there is
no payload, and then fewer octets come to the same, or are too short. -/
inductive CutLaw (way : Bytes → Except HeaderError (Option Found)) : Bytes → Prop
  | found (headers rest : Bytes) (src dst : IpAddress) (limit : Option Nat)
    (leads : ∀ other, way (headers ++ other) = .ok (some ⟨src,dst,bounded limit other⟩))
    (short : ∀ n < headers.length, IsTooShort (way (headers.take n))) : CutLaw way (headers ++ rest)
  | nowhere (octets : Bytes) (result : Except HeaderError (Option Found)) (reached : way octets = result)
    (nothing : ∀ found, result ≠ .ok (some found))
    (cut : ∀ n, IsTooShort (way (octets.take n)) ∨ way (octets.take n) = result) : CutLaw way octets

namespace CutLaw

theorem of_tooShort {way : Bytes → Except HeaderError (Option Found)} {octets : Bytes}
    (short : ∀ n, IsTooShort (way (octets.take n))) : CutLaw way octets := by
  obtain ⟨header,reached⟩ := short octets.length
  rw [List.take_length] at reached
  exact .nowhere octets _ reached nofun fun n => .inl (short n)

theorem of_constant {way : Bytes → Except HeaderError (Option Found)} (octets : Bytes)
    (result : Except HeaderError (Option Found)) (same : ∀ other, way other = result)
    (nothing : ∀ found, result ≠ .ok (some found)) : CutLaw way octets :=
  .nowhere octets result (same octets) nothing fun _ => .inr (same _)

/-- A header in front of what the law holds of. -/
theorem of_front {way next : Bytes → Except HeaderError (Option Found)} {front inner : Bytes}
    (passes : ∀ other, way (front ++ other) = next other)
    (short : ∀ n < front.length, IsTooShort (way (front.take n))) (law : CutLaw next inner) :
    CutLaw way (front ++ inner) := by
  have within : ∀ n other, n < front.length → IsTooShort (way ((front ++ other).take n)) := by
    intro n other less
    rw [List.take_append_of_le_length (Nat.le_of_lt less)]
    exact short n less
  have behind : ∀ n other, ¬ n < front.length →
      way ((front ++ other).take n) = next (other.take (n - front.length)) := by
    intro n other more
    rw [List.take_append,List.take_of_length_le (Nat.not_lt.mp more),passes]
  cases law with
  | found headers rest src dst limit leads shorter =>
    rw [← List.append_assoc]
    refine .found (front ++ headers) rest src dst limit ?_ ?_
    · intro other
      rw [List.append_assoc,passes,leads]
    · intro n less
      by_cases inside : n < front.length
      · exact within n headers inside
      · rw [behind n headers inside]
        rw [List.length_append] at less
        exact shorter _ (by omega)
  | nowhere _ result reached nothing cut =>
    refine .nowhere _ result ((passes inner).trans reached) nothing ?_
    intro n
    by_cases inside : n < front.length
    · exact .inl (within n inner inside)
    · rw [behind n inner inside]
      exact cut _

/-- A header of a fixed size. -/
theorem of_size {way : Bytes → Except HeaderError (Option Found)} (size : Nat)
    (few : ∀ octets : Bytes, octets.length < size → IsTooShort (way octets))
    (enough : ∀ front : Bytes, front.length = size →
      ∃ next, (∀ other, way (front ++ other) = next other) ∧ ∀ inner, CutLaw next inner) (octets : Bytes) :
    CutLaw way octets := by
  by_cases less : octets.length < size
  · apply of_tooShort
    intro n
    exact few _ (Nat.lt_of_le_of_lt (List.length_take_le' _ _) less)
  · have length : (octets.take size).length = size := List.length_take_of_le (Nat.not_lt.mp less)
    obtain ⟨next,passes,law⟩ := enough _ length
    rw [← List.take_append_drop size octets]
    refine of_front passes ?_ (law _)
    intro n inside
    exact few _ (Nat.lt_of_le_of_lt (List.length_take_le _ _) (by omega))

/-- A length that bounds the octets in which the way goes on. -/
theorem of_take {way : Bytes → Except HeaderError (Option Found)} {length : Nat} {octets : Bytes}
    (law : CutLaw way (octets.take length)) : CutLaw (fun other => way (other.take length)) octets := by
  generalize there : octets.take length = area at law
  cases law with
  | found headers rest src dst limit leads short =>
    have front : headers.length ≤ length := by
      have size := congrArg List.length there
      rw [List.length_take,List.length_append] at size
      omega
    have whole : octets = headers ++ octets.drop headers.length := by
      have first : octets.take headers.length = headers := by
        rw [← Nat.min_eq_left front,← List.take_take,there,List.take_left]
      conv_lhs => rw [← List.take_append_drop headers.length octets,first]
    rw [whole]
    refine .found headers _ src dst (some (limit.elim (length - headers.length) (min · (length - headers.length))))
      ?_ ?_
    · intro other
      rw [List.take_append,List.take_of_length_le front,leads]
      cases limit with
      | none => rfl
      | some bound => simp only [bounded,Option.elim_some,List.take_take]
    · intro n less
      rw [List.take_take,Nat.min_eq_right (by omega)]
      exact short n less
  | nowhere _ result reached nothing cut =>
    subst there
    refine .nowhere octets result reached nothing ?_
    intro n
    rw [List.take_take,Nat.min_comm,← List.take_take]
    exact cut n

end CutLaw

theorem read?_eq_none_of_few (packet : Bytes) (few : packet.length < 20) : Ipv4Header.read? packet = none := by
  unfold Ipv4Header.read?
  split
  · simp only [List.length_cons] at few
    omega
  · rfl

theorem exists_read? (front : Bytes) (twenty : front.length = 20) :
    ∃ header, ∀ other, Ipv4Header.read? (front ++ other) = some (header,other) := by
  match front, twenty with
  | [lead,_,l₀,l₁,_,_,f₀,f₁,_,protocol,_,_,s₀,s₁,s₂,s₃,d₀,d₁,d₂,d₃], _ => exact ⟨_,fun _ => rfl⟩

/-- The way behind the options of an IPv4 header. -/
def pastOptions (header : Ipv4Header) (behind : Bytes) : Except HeaderError (Option Found) :=
  if header.isFragment || header.protocol != sctpProtocol then .ok none
  else if header.totalLength = 0 then .ok (some ⟨.v4 header.src,.v4 header.dst,behind⟩)
  else if header.totalLength.toNat < header.length then .error (.insufficientLength .ipv4)
  else .ok (some ⟨.v4 header.src,.v4 header.dst,behind.take (header.totalLength.toNat - header.length)⟩)

/-- The way behind the fixed part of an IPv4 header. -/
def pastFixed (header : Ipv4Header) (rest : Bytes) : Except HeaderError (Option Found) :=
  if !header.isValid then .error (.invalid .ipv4)
  else if (rest.take (header.length - 20)).length < header.length - 20 then .error (.tooShort .ipv4)
  else pastOptions header (rest.drop (header.length - 20))

theorem throughIpv4_eq (packet rest : Bytes) (header : Ipv4Header)
    (read : Ipv4Header.read? packet = some (header,rest)) : throughIpv4 packet = pastFixed header rest := by
  rw [throughIpv4,read]
  rfl

theorem cutLaw_pastOptions (header : Ipv4Header) (behind : Bytes) : CutLaw (pastOptions header) behind := by
  unfold pastOptions
  by_cases other : (header.isFragment || header.protocol != sctpProtocol) = true
  · simp only [if_pos other]
    exact .of_constant behind (.ok none) (fun _ => rfl) nofun
  simp only [if_neg other]
  by_cases zero : header.totalLength = 0
  · simp only [if_pos zero]
    exact .found [] behind _ _ none (fun _ => rfl) nofun
  simp only [if_neg zero]
  by_cases below : header.totalLength.toNat < header.length
  · simp only [if_pos below]
    exact .of_constant behind (.error (.insufficientLength .ipv4)) (fun _ => rfl) nofun
  · simp only [if_neg below]
    exact .found [] behind _ _ (some _) (fun _ => rfl) nofun

theorem cutLaw_pastFixed (header : Ipv4Header) (rest : Bytes) : CutLaw (pastFixed header) rest := by
  by_cases valid : header.isValid = true
  · have passes : ∀ octets, pastFixed header octets =
        if (octets.take (header.length - 20)).length < header.length - 20 then .error (.tooShort .ipv4)
        else pastOptions header (octets.drop (header.length - 20)) := by
      intro octets
      rw [pastFixed,valid]
      rfl
    refine .of_size (header.length - 20) ?_ ?_ rest
    · intro octets few
      rw [passes,if_pos (by rw [List.length_take]; omega)]
      exact ⟨_,rfl⟩
    · intro options whole
      refine ⟨pastOptions header,?_,cutLaw_pastOptions header⟩
      intro other
      rw [passes,List.take_left' whole,List.drop_left' whole,if_neg (by omega)]
  · refine .of_constant rest (.error (.invalid .ipv4)) ?_ nofun
    intro octets
    rw [pastFixed,Bool.eq_false_iff.mpr valid]
    rfl

theorem cutLaw_throughIpv4 (packet : Bytes) : CutLaw throughIpv4 packet := by
  refine .of_size 20 ?_ ?_ packet
  · intro octets few
    rw [throughIpv4,read?_eq_none_of_few octets few]
    exact ⟨_,rfl⟩
  · intro front twenty
    obtain ⟨header,reads⟩ := exists_read? front twenty
    exact ⟨pastFixed header,fun other => throughIpv4_eq _ _ _ (reads other),cutLaw_pastFixed header⟩

/-- The way along a chain of extensions between two addresses. -/
def alongChain (src dst : Ipv6) (next : UInt8) (area : Bytes) : Except HeaderError (Option Found) :=
  match skipExtensions next area with
  | .ok (some inner) => .ok (some ⟨.v6 src,.v6 dst,inner⟩)
  | .ok none => .ok none
  | .error fault => .error fault

section Extension
variable (src dst : Ipv6) {next : UInt8} (passes : isExtension next = true)
include passes

theorem ne_sctpProtocol : next ≠ sctpProtocol := by
  obtain rfl | rfl | rfl := (isExtension_iff next).mp passes <;> decide

theorem alongChain_few {area : Bytes} (few : area.length < 2) : IsTooShort (alongChain src dst next area) := by
  have refused : skipExtensions next area = .error (.tooShort .ipv6Extension) := by
    rw [skipExtensions.eq_def,if_neg (ne_sctpProtocol passes),if_pos passes]
    split
    · simp only [List.length_cons] at few
      omega
    · rfl
  rw [alongChain,refused]
  exact ⟨_,rfl⟩

theorem alongChain_extension (following units : UInt8) (rest : Bytes) :
    alongChain src dst next (following :: units :: rest) =
      if (rest.take (units.toNat * 8 + 6)).length < units.toNat * 8 + 6 then .error (.tooShort .ipv6Extension)
      else alongChain src dst following (rest.drop (units.toNat * 8 + 6)) := by
  rw [alongChain,skipExtensions,if_neg (ne_sctpProtocol passes),if_pos passes]
  dsimp only
  by_cases cut : (rest.take (units.toNat * 8 + 6)).length < units.toNat * 8 + 6
  · rw [if_pos cut,if_pos cut]
  · rw [if_neg cut,if_neg cut,alongChain]

/-- An extension of which only the first octets are there. -/
theorem alongChain_cut (following units : UInt8) (rest : Bytes) (n : Nat)
    (cut : (rest.take (n - 2)).length < units.toNat * 8 + 6) :
    IsTooShort (alongChain src dst next ((following :: units :: rest).take n)) := by
  by_cases few : n < 2
  · exact alongChain_few src dst passes (Nat.lt_of_le_of_lt (List.length_take_le _ _) few)
  · obtain ⟨more,rfl⟩ : ∃ more, n = more + 2 := ⟨n - 2,by omega⟩
    rw [Nat.add_sub_cancel] at cut
    simp only [List.take_succ_cons]
    rw [alongChain_extension src dst passes,if_pos]
    · exact ⟨_,rfl⟩
    · exact Nat.lt_of_le_of_lt (List.length_take_le' _ _) cut

end Extension

theorem cutLaw_alongChain (src dst : Ipv6) (next : UInt8) (area : Bytes) :
    CutLaw (alongChain src dst next) area := by
  fun_induction skipExtensions next area with
  | case1 area =>
    refine .found [] area (.v6 src) (.v6 dst) none ?_ ?_
    · intro other
      rw [alongChain,skipExtensions.eq_def]
      rfl
    · intro n less
      exact absurd less (Nat.not_lt_zero n)
  | case2 next other passes following units rest length cut =>
    apply CutLaw.of_tooShort
    intro n
    refine alongChain_cut src dst passes following units rest n ?_
    rw [List.length_take] at cut ⊢
    omega
  | case3 next other passes following units rest length enough ih =>
    have whole : (rest.take length).length = length := by
      have bound := List.length_take_le length rest
      omega
    have front : CutLaw (alongChain src dst next)
        ((following :: units :: rest.take length) ++ rest.drop length) := by
      refine .of_front ?_ ?_ ih
      · intro behind
        rw [List.cons_append,List.cons_append,alongChain_extension src dst passes,
          List.take_left' whole,List.drop_left' whole,whole,if_neg (Nat.lt_irrefl _)]
      · intro n less
        refine alongChain_cut src dst passes following units _ n ?_
        simp only [List.length_cons,whole] at less
        rw [List.length_take,whole]
        omega
    rwa [List.cons_append,List.cons_append,List.take_append_drop] at front
  | case4 next area other passes not_two =>
    have few : area.length < 2 := by
      rcases area with _ | ⟨following,_ | ⟨units,rest⟩⟩
      · exact Nat.zero_lt_two
      · exact Nat.one_lt_two
      · exact absurd rfl (not_two following units rest)
    apply CutLaw.of_tooShort
    intro n
    exact alongChain_few src dst passes (Nat.lt_of_le_of_lt (List.length_take_le' _ _) few)
  | case5 next area other stops =>
    refine .of_constant area (.ok none) ?_ ?_
    · intro behind
      rw [alongChain,skipExtensions.eq_def,if_neg other,if_neg stops]
    · intro found same
      cases same

/-- The way behind an IPv6 header. -/
def pastIpv6 (lead next : UInt8) (length : UInt16) (src dst : Ipv6) (rest : Bytes) :
    Except HeaderError (Option Found) :=
  if lead / 16 != 6 then .error (.invalid .ipv6)
  else alongChain src dst next (if length.toNat = 0 then rest else rest.take length.toNat)

theorem cutLaw_pastIpv6 (lead next : UInt8) (length : UInt16) (src dst : Ipv6) (rest : Bytes) :
    CutLaw (pastIpv6 lead next length src dst) rest := by
  unfold pastIpv6
  by_cases other : (lead / 16 != 6) = true
  · simp only [if_pos other]
    exact .of_constant rest (.error (.invalid .ipv6)) (fun _ => rfl) nofun
  simp only [if_neg other]
  by_cases unbounded : length.toNat = 0
  · simp only [if_pos unbounded]
    exact cutLaw_alongChain src dst next rest
  · simp only [if_neg unbounded]
    exact .of_take (cutLaw_alongChain src dst next (rest.take length.toNat))

theorem ofPrefix?_eq_none_of_few (octets : Bytes) (few : octets.length < 16) : Ipv6.ofPrefix? octets = none :=
  dif_neg (Nat.not_le.mpr few)

theorem cutLaw_throughIpv6 (packet : Bytes) : CutLaw throughIpv6 packet := by
  refine .of_size 40 ?_ ?_ packet
  · intro octets few
    unfold throughIpv6
    split
    · rename_i lead f₀ f₁ f₂ l₀ l₁ next hops rest
      simp only [List.length_cons] at few
      rw [ofPrefix?_eq_none_of_few (rest.drop 16) (by rw [List.length_drop]; omega)]
      split
      · rename_i nothing
        cases nothing
      · exact ⟨_,rfl⟩
    · exact ⟨_,rfl⟩
  · intro front forty
    match front, forty with
    | lead :: f₀ :: f₁ :: f₂ :: l₀ :: l₁ :: next :: hops :: addresses, forty =>
      have size : addresses.length = 32 := by
        simp only [List.length_cons] at forty
        omega
      let src : Ipv6 := ⟨addresses.take 16,List.length_take_of_le (by omega)⟩
      let dst : Ipv6 := ⟨addresses.drop 16,by rw [List.length_drop,size]⟩
      refine ⟨pastIpv6 lead next (word16 l₀ l₁) src dst,?_,cutLaw_pastIpv6 _ _ _ _ _⟩
      intro other
      have first : Ipv6.ofPrefix? (addresses ++ other) = some src :=
        (ofPrefix?_eq_some_iff _ _).mpr ⟨addresses.drop 16 ++ other,by
          rw [← List.append_assoc,List.take_append_drop]⟩
      have second : Ipv6.ofPrefix? ((addresses ++ other).drop 16) = some dst :=
        (ofPrefix?_eq_some_iff _ _).mpr ⟨other,List.drop_append_of_le_length (by omega)⟩
      simp only [throughIpv6,List.cons_append,first,second,List.drop_left' size]
      rw [pastIpv6]
      rfl

/-- The way through the network layer that is announced. -/
def through (etherType : UInt16) (packet : Bytes) : Except HeaderError (Option Found) :=
  if etherType = ipv4Type then throughIpv4 packet
  else if etherType = ipv6Type then throughIpv6 packet
  else .ok none

theorem cutLaw_through (etherType : UInt16) (packet : Bytes) : CutLaw (through etherType) packet := by
  unfold through
  by_cases four : etherType = ipv4Type
  · simp only [if_pos four]
    exact cutLaw_throughIpv4 packet
  simp only [if_neg four]
  by_cases six : etherType = ipv6Type
  · simp only [if_pos six]
    exact cutLaw_throughIpv6 packet
  · simp only [if_neg six]
    exact .of_constant packet (.ok none) (fun _ => rfl) nofun

theorem find?_of_network {link : LinkType} {frame packet : Bytes} {etherType : UInt16}
    (announced : network link frame = .ok (etherType,packet)) : find? link frame = through etherType packet := by
  rw [find?,announced]
  rfl

theorem find?_of_tooShort {link : LinkType} {frame : Bytes} (header : HeaderName)
    (short : network link frame = .error (.tooShort header)) : IsTooShort (find? link frame) := by
  rw [find?,short]
  exact ⟨header,rfl⟩

/-- The way through any number of tags. -/
def pastTags (etherType : UInt16) (rest : Bytes) : Except HeaderError (Option Found) :=
  match skipTags etherType rest with
  | .error fault => .error fault
  | .ok (inner,packet) => through inner packet

theorem pastTags_few {etherType : UInt16} {rest : Bytes} (tagged : isTag etherType = true)
    (few : rest.length < 4) : IsTooShort (pastTags etherType rest) := by
  have refused : skipTags etherType rest = .error (.tooShort .vlanTag) := by
    rw [skipTags.eq_def,if_pos tagged]
    split
    · simp only [List.length_cons] at few
      omega
    · rfl
  rw [pastTags,refused]
  exact ⟨_,rfl⟩

theorem cutLaw_pastTags (etherType : UInt16) (rest : Bytes) : CutLaw (pastTags etherType) rest := by
  fun_induction skipTags etherType rest with
  | case1 etherType tagged t₀ t₁ a b inner ih =>
    change CutLaw (pastTags etherType) ([t₀,t₁,a,b] ++ inner)
    refine .of_front ?_ ?_ ih
    · intro other
      rw [pastTags,List.cons_append,List.cons_append,List.cons_append,List.cons_append,List.nil_append,
        skipTags,if_pos tagged]
      rfl
    · intro n less
      exact pastTags_few tagged (Nat.lt_of_le_of_lt (List.length_take_le _ _) less)
  | case2 etherType rest tagged not_four =>
    have few : rest.length < 4 := by
      rcases rest with _ | ⟨t₀,_ | ⟨t₁,_ | ⟨a,_ | ⟨b,inner⟩⟩⟩⟩
      case cons.cons.cons.cons => exact absurd rfl (not_four t₀ t₁ a b inner)
      all_goals
        simp only [List.length_cons,List.length_nil]
        omega
    apply CutLaw.of_tooShort
    intro n
    exact pastTags_few tagged (Nat.lt_of_le_of_lt (List.length_take_le' _ _) few)
  | case3 etherType rest untagged =>
    have plain : pastTags etherType = through etherType := by
      funext packet
      rw [pastTags,skipTags.eq_def,if_neg untagged]
    rw [plain]
    exact cutLaw_through etherType rest

theorem cutLaw_ethernet (frame : Bytes) : CutLaw (find? .ethernet) frame := by
  refine .of_size 14 ?_ ?_ frame
  · intro octets few
    apply find?_of_tooShort .ethernet
    have left : (octets.drop 12).length < 2 := by
      rw [List.length_drop]
      omega
    rw [network]
    split
    · rename_i there
      rw [there] at left
      simp only [List.length_cons] at left
      omega
    · rfl
  · intro front fourteen
    obtain ⟨a,b,last⟩ : ∃ a b, front.drop 12 = [a,b] := by
      apply List.length_eq_two.mp
      rw [List.length_drop,fourteen]
    refine ⟨pastTags (word16 a b),?_,cutLaw_pastTags _⟩
    intro other
    rw [find?,network,List.drop_append_of_le_length (by omega),last]
    rfl

theorem cutLaw_cooked (frame : Bytes) : CutLaw (find? .cooked) frame := by
  refine .of_size 16 ?_ ?_ frame
  · intro octets few
    apply find?_of_tooShort .cooked
    have left : (octets.drop 14).length < 2 := by
      rw [List.length_drop]
      omega
    rw [network]
    split
    · rename_i there
      rw [there] at left
      simp only [List.length_cons] at left
      omega
    · rfl
  · intro front sixteen
    obtain ⟨a,b,last⟩ : ∃ a b, front.drop 14 = [a,b] := by
      apply List.length_eq_two.mp
      rw [List.length_drop,sixteen]
    refine ⟨through (word16 a b),?_,cutLaw_through _⟩
    intro other
    apply find?_of_network
    rw [network,List.drop_append_of_le_length (by omega),last]
    rfl

theorem cutLaw_cookedV2 (frame : Bytes) : CutLaw (find? .cookedV2) frame := by
  refine .of_size 20 ?_ ?_ frame
  · intro octets few
    apply find?_of_tooShort .cookedV2
    have left : (octets.take 20).length < 20 := Nat.lt_of_le_of_lt (List.length_take_le' _ _) few
    rw [network]
    split
    · rename_i there
      rw [there] at left
      exact if_pos (Nat.lt_of_succ_lt_succ (Nat.lt_of_succ_lt_succ left))
    · rfl
  · intro front twenty
    rcases front with _ | ⟨a,_ | ⟨b,header⟩⟩
    · cases twenty
    · cases twenty
    · refine ⟨through (word16 a b),?_,cutLaw_through _⟩
      intro other
      apply find?_of_network
      rw [network,List.take_left' twenty,List.drop_left' twenty]
      exact if_neg (by simp only [List.length_cons] at twenty; omega)

theorem cutLaw_null (frame : Bytes) : CutLaw (find? .null) frame := by
  refine .of_size 4 ?_ ?_ frame
  · intro octets few
    apply find?_of_tooShort .null
    match octets, few with
    | [], _ | [_], _ | [_,_], _ | [_,_,_], _ => rfl
    | _ :: _ :: _ :: _ :: _, few =>
      simp only [List.length_cons] at few
      omega
  · intro front four
    match front, four with
    | [a,b,c,d], _ => exact ⟨through (nullType a b c d),fun other => find?_of_network rfl,cutLaw_through _⟩

/-- A first octet that chooses the way, and stays where it is. -/
theorem CutLaw.of_first {way : Bytes → Except HeaderError (Option Found)} {lead : UInt8} {rest : Bytes}
    (next : Bytes → Except HeaderError (Option Found))
    (chosen : ∀ other, way (lead :: other) = next (lead :: other)) (empty : IsTooShort (way []))
    (empty_next : IsTooShort (next [])) (law : CutLaw next (lead :: rest)) : CutLaw way (lead :: rest) := by
  have whole : way (lead :: rest) = next (lead :: rest) := chosen rest
  generalize there : lead :: rest = octets at law whole
  cases law with
  | found headers rest src dst limit leads short =>
    cases headers with
    | nil =>
      obtain ⟨header,refused⟩ := empty_next
      have nothing := leads []
      rw [List.append_nil,refused] at nothing
      cases nothing
    | cons first headers =>
      obtain rfl : lead = first := (List.cons.inj there).1
      refine .found (lead :: headers) rest src dst limit (fun other => (chosen _).trans (leads other)) ?_
      intro n less
      cases n with
      | zero => exact empty
      | succ n =>
        rw [List.take_succ_cons,chosen,← List.take_succ_cons]
        exact short _ less
  | nowhere _ result reached nothing cut =>
    refine .nowhere _ result (whole.trans reached) nothing ?_
    subst there
    intro n
    cases n with
    | zero => exact .inl empty
    | succ n =>
      rw [List.take_succ_cons,chosen,← List.take_succ_cons]
      exact cut _

theorem cutLaw_raw {link : LinkType} (raw : link = .rawIpv4 ∨ link = .rawIpv6) (frame : Bytes) :
    CutLaw (find? link) frame := by
  have empty : IsTooShort (find? link []) := by
    obtain rfl | rfl := raw <;> exact ⟨.rawIp,rfl⟩
  cases frame with
  | nil =>
    apply CutLaw.of_tooShort
    intro n
    rw [List.take_nil]
    exact empty
  | cons lead rest =>
    have announced : ∀ other, network link (lead :: other) =
        if lead / 16 = 4 then .ok (ipv4Type,lead :: other)
        else if lead / 16 = 6 then .ok (ipv6Type,lead :: other)
        else .error (.invalid .rawIpVersion) := by
      intro other
      obtain rfl | rfl := raw <;> rfl
    by_cases four : lead / 16 = 4
    · refine .of_first throughIpv4 ?_ empty ⟨.ipv4,rfl⟩ (cutLaw_throughIpv4 _)
      intro other
      exact find?_of_network ((announced other).trans (if_pos four))
    by_cases six : lead / 16 = 6
    · refine .of_first throughIpv6 ?_ empty ⟨.ipv6,rfl⟩ (cutLaw_throughIpv6 _)
      intro other
      exact find?_of_network ((announced other).trans ((if_neg four).trans (if_pos six)))
    · have refused : ∀ other, find? link (lead :: other) = .error (.invalid .rawIpVersion) := by
        intro other
        rw [find?,announced,if_neg four,if_neg six]
      refine .nowhere _ _ (refused rest) ?_ ?_
      · intro found same
        cases same
      · intro n
        cases n with
        | zero => exact .inl empty
        | succ n => exact .inr (refused _)

theorem cutLaw_find? (link : LinkType) (frame : Bytes) : CutLaw (find? link) frame := by
  cases link with
  | ethernet => exact cutLaw_ethernet frame
  | cooked => exact cutLaw_cooked frame
  | cookedV2 => exact cutLaw_cookedV2 frame
  | null => exact cutLaw_null frame
  | rawIpv4 => exact cutLaw_raw (.inl rfl) frame
  | rawIpv6 => exact cutLaw_raw (.inr rfl) frame

/-- Too short, or the same: the same fault, nothing again, or the same addresses with a first part of the
payload. -/
inductive CutOf : Except HeaderError (Option Found) → Except HeaderError (Option Found) → Prop
  | tooShort (header : HeaderName) (whole : Except HeaderError (Option Found)) :
    CutOf (.error (.tooShort header)) whole
  | fault (fault : HeaderError) : CutOf (.error fault) (.error fault)
  | nothing : CutOf (.ok none) (.ok none)
  | found (src dst : IpAddress) (part payload : Bytes) (front : part <+: payload) :
    CutOf (.ok (some ⟨src,dst,part⟩)) (.ok (some ⟨src,dst,payload⟩))

/-- The payload starts behind the headers: whatever is behind them is the payload, as far as their lengths
go, and a frame that is cut leads to what is left of it, or is too short where it is cut within the
headers. -/
structure StartsBehind (link : LinkType) (frame : Bytes) (found : Found) (headers : Bytes) : Prop where
  starts : ∃ rest, frame = headers ++ rest ∧ found.payload <+: rest
  leads : ∀ other, ∃ payload, payload <+: other ∧
    find? link (headers ++ other) = .ok (some { found with payload := payload })
  short : ∀ n, IsTooShort (find? link (frame.take n)) ↔ n < headers.length
  enough : ∀ n, headers.length ≤ n → find? link (frame.take n) =
    .ok (some { found with payload := found.payload.take (min found.payload.length (n - headers.length)) })

theorem cutOf_find? (link : LinkType) (frame : Bytes) (n : Nat) :
    CutOf (find? link (frame.take n)) (find? link frame) := by
  cases cutLaw_find? link frame with
  | found headers rest src dst limit leads short =>
    by_cases less : n < headers.length
    · obtain ⟨header,refused⟩ := short n less
      rw [List.take_append_of_le_length (Nat.le_of_lt less),refused]
      exact .tooShort _ _
    · rw [List.take_append,List.take_of_length_le (Nat.not_lt.mp less),leads,leads,bounded_take]
      exact .found _ _ _ _ (List.take_prefix _ _)
  | nowhere _ result reached nothing cut =>
    rw [reached]
    obtain ⟨header,refused⟩ | same := cut n
    · rw [refused]
      exact .tooShort _ _
    · rw [same]
      match result, nothing with
      | .error fault, _ => exact .fault fault
      | .ok none, _ => exact .nothing
      | .ok (some found), nothing => exact absurd rfl (nothing found)

theorem startsBehind_find? (link : LinkType) (frame : Bytes) (found : Found)
    (leads : find? link frame = .ok (some found)) : ∃ headers, StartsBehind link frame found headers := by
  cases cutLaw_find? link frame with
  | nowhere _ result reached nothing cut => exact absurd (reached.symm.trans leads) (nothing found)
  | found headers rest src dst limit onward short =>
    have same := (onward rest).symm.trans leads
    cases same
    have behind : ∀ n, headers.length ≤ n → find? link ((headers ++ rest).take n) =
        .ok (some ⟨src,dst,(bounded limit rest).take (min (bounded limit rest).length (n - headers.length))⟩) := by
      intro n more
      rw [List.take_append,List.take_of_length_le more,onward,bounded_take,Nat.min_comm,← List.take_eq_take_min]
    refine ⟨headers,⟨rest,rfl,bounded_front _ _⟩,?_,?_,behind⟩
    · intro other
      exact ⟨_,bounded_front limit other,onward other⟩
    · intro n
      constructor
      · rintro ⟨header,refused⟩
        by_contra more
        rw [behind n (Nat.not_lt.mp more)] at refused
        cases refused
      · intro less
        rw [List.take_append_of_le_length (Nat.le_of_lt less)]
        exact short n less

theorem StartsBehind.reached {link : LinkType} {frame headers : Bytes} {found : Found}
    (behind : StartsBehind link frame found headers) : find? link frame = .ok (some found) := by
  obtain ⟨rest,rfl,front⟩ := behind.starts
  have bound := front.length_le
  have whole := behind.enough (headers ++ rest).length (by rw [List.length_append]; omega)
  rw [List.take_length,List.length_append,Nat.min_eq_left (by omega),List.take_length] at whole
  exact whole

theorem find?_take (link : LinkType) (frame : Bytes) :
    (∀ n, CutOf (find? link (frame.take n)) (find? link frame)) ∧
      ∀ found, find? link frame = .ok (some found) → ∃ headers, StartsBehind link frame found headers :=
  ⟨cutOf_find? link frame,startsBehind_find? link frame⟩

/-- A COOKIE ACK over IPv4 behind a tag, and two octets that fill the frame up. -/
def taggedCookieAck : Bytes :=
  [0, 0, 0, 0, 0, 1, 0, 0, 0, 0, 0, 2, 0x81, 0x00, 0, 5, 0x08, 0x00,
    0x45, 0, 0, 36, 0, 1, 0x40, 0, 64, 132, 0, 0, 10, 0, 0, 1, 10, 0, 0, 2,
    0x0B, 0x59, 0x0B, 0x5A, 0, 0, 0, 1, 0x58, 0xA5, 0x1C, 0x32, 11, 0, 0, 4, 0, 0]

theorem find?_take_taggedCookieAck :
    ∃ found, find? .ethernet taggedCookieAck = .ok (some found) ∧
      found.payload = (taggedCookieAck.drop 38).take 16 ∧
        (∀ n, CutOf (find? .ethernet (taggedCookieAck.take n)) (find? .ethernet taggedCookieAck)) ∧
          ∃ headers, StartsBehind .ethernet taggedCookieAck found headers := by
  have found : find? .ethernet taggedCookieAck =
      .ok (some ⟨.v4 ⟨[10,0,0,1],rfl⟩,.v4 ⟨[10,0,0,2],rfl⟩,(taggedCookieAck.drop 38).take 16⟩) := by
    decide +kernel
  obtain ⟨cut,starts⟩ := find?_take .ethernet taggedCookieAck
  exact ⟨_,found,rfl,cut,starts _ found⟩

end Sctp.Frame
