import Sctp.Capture.Delimits
import Sctp.Capture.Pcap
import Sctp.Capture.Pcapng

/-! How blocks stand one after another in a capture: each is found by its own octets (`Delimits`), whatever is behind
it. The main statements are `Pcap.delimits_record` and `Pcapng.delimits_block`, for the blocks of both formats. -/
namespace Sctp.Capture

namespace Pcap

/-- What is read behind the usual sixteen octets of a record head. -/
def behindHead (layout : Layout) (seconds fraction captured wire : UInt32) (rest : Bytes) :
    Scan (PacketBlock × Bytes) :=
  (Scan.split layout.surplus rest).andThen fun (_,rest) =>
    (Scan.split captured.toNat rest).andThen fun (data,rest) =>
      .found (.record seconds fraction captured wire data,rest)

theorem record_few (layout : Layout) {octets : Bytes} (few : octets.length < 16) :
    record layout octets = .missing (16 + layout.surplus - octets.length) := by
  unfold record
  split
  · simp only [List.length_cons] at few
    omega
  · rfl

theorem delimits_record {layout : Layout} {octets : Bytes} {packet : PacketBlock} {after : Bytes}
    (read : record layout octets = .found (packet,after)) :
    ∃ piece, octets = piece ++ after ∧ Delimits (record layout) piece fun more => (packet,more) := by
  unfold record at read
  split at read
  · rename_i s₀ s₁ s₂ s₃ f₀ f₁ f₂ f₃ c₀ c₁ c₂ c₃ o₀ o₁ o₂ o₃ rest
    dsimp only at read
    obtain ⟨⟨skipped,rest⟩,first,read⟩ := Scan.found_of_andThen _ _ _ read
    obtain ⟨⟨data,rest⟩,second,read⟩ := Scan.found_of_andThen _ _ _ read
    obtain ⟨rfl,rfl⟩ := Prod.mk.inj (Scan.found.inj read)
    obtain ⟨surplus,rfl⟩ := Scan.length_of_split _ _ _ _ first
    obtain ⟨captured,rfl⟩ := Scan.length_of_split _ _ _ _ second
    refine ⟨[s₀,s₁,s₂,s₃,f₀,f₁,f₂,f₃,c₀,c₁,c₂,c₃,o₀,o₁,o₂,o₃] ++ (skipped ++ (data ++ [])),?_,?_⟩
    · simp only [List.append_assoc,List.append_nil]
      rfl
    have inside : Delimits (behindHead layout (layout.order.word32 s₀ s₁ s₂ s₃)
        (layout.order.word32 f₀ f₁ f₂ f₃) (layout.order.word32 c₀ c₁ c₂ c₃)
        (layout.order.word32 o₀ o₁ o₂ o₃)) (skipped ++ (data ++ [])) _ :=
      .of_split surplus (.of_split captured (.nil _))
    refine inside.of_front (fun _ => rfl) ?_
    intro n less
    refine ⟨16 + layout.surplus - n,?_,?_⟩
    · rw [record_few layout (Nat.lt_of_le_of_lt (List.length_take_le _ _) less),
        List.length_take_of_le (Nat.le_of_lt less)]
    · simp only [List.length_append,List.length_cons,List.length_nil,surplus] at less ⊢
      omega
  · cases read

end Pcap

namespace Pcapng

/-- What is read behind the type and the length of a block. -/
def Envelope.behindLength (type : BlockType) (order : ByteOrder) (length : UInt32) (rest : Bytes) :
    Scan (Envelope × Bytes) :=
  if length.toNat < type.minimum then .refused .malformed
  else
    (Scan.split (length - 12).toNat rest).andThen fun (content,rest) =>
      match rest with
      | t₀ :: t₁ :: t₂ :: t₃ :: after => .found (⟨type,order,content,length,order.word32 t₀ t₁ t₂ t₃⟩,after)
      | cut => .missing (4 - cut.length)

theorem minimum_bounds (type : BlockType) : 8 ≤ type.minimum ∧ type.minimum ≤ 32 := by
  cases type <;> decide

theorem Envelope.delimits_behindLength {type : BlockType} (order : ByteOrder) {length : UInt32}
    {content : Bytes} (t₀ t₁ t₂ t₃ : UInt8) (covers : ¬ length.toNat < type.minimum)
    (size : content.length = (length - 12).toNat) :
    Delimits (behindLength type order length) (content ++ [t₀,t₁,t₂,t₃])
      fun more => (⟨type,order,content,length,order.word32 t₀ t₁ t₂ t₃⟩,more) := by
  unfold behindLength
  simp only [if_neg covers]
  refine .of_split size ⟨fun _ => rfl,?_⟩
  intro n less
  refine ⟨4 - n,?_,?_⟩
  · obtain rfl | rfl | rfl | rfl : n = 0 ∨ n = 1 ∨ n = 2 ∨ n = 3 := by
      simp only [List.length_cons,List.length_nil] at less
      omega
    all_goals rfl
  · simp only [List.length_cons,List.length_nil] at less ⊢
    omega

theorem Envelope.delimits_read {type : BlockType} {order : ByteOrder} {octets : Bytes} {envelope : Envelope}
    {after : Bytes} (found : read type order octets = .found (envelope,after)) :
    ∃ piece, octets = piece ++ after ∧ type.minimum ≤ piece.length ∧
      Delimits (read type order) piece fun more => (envelope,more) := by
  obtain ⟨front,-,opened⟩ := Scan.found_of_andThen _ _ _ found
  split at opened
  · rename_i t₀ t₁ t₂ t₃ l₀ l₁ l₂ l₃ rest
    dsimp only at opened
    split at opened
    · cases opened
    rename_i covers
    obtain ⟨⟨content,rest⟩,apart,closed⟩ := Scan.found_of_andThen _ _ _ opened
    obtain ⟨size,rfl⟩ := Scan.length_of_split _ _ _ _ apart
    dsimp only at closed
    split at closed
    · rename_i r₀ r₁ r₂ r₃ after
      obtain ⟨rfl,rfl⟩ := Prod.mk.inj (Scan.found.inj closed)
      have inside := delimits_behindLength order r₀ r₁ r₂ r₃ covers size
      have least : type.minimum ≤ ([t₀,t₁,t₂,t₃,l₀,l₁,l₂,l₃] ++ (content ++ [r₀,r₁,r₂,r₃])).length := by
        have bounds := minimum_bounds type
        have bound := (order.word32 l₀ l₁ l₂ l₃).toNat_lt
        have difference := UInt32.toNat_sub (order.word32 l₀ l₁ l₂ l₃) 12
        rw [show (12 : UInt32).toNat = 12 from rfl] at difference
        simp only [List.length_append,List.length_cons,List.length_nil,size]
        omega
      refine ⟨[t₀,t₁,t₂,t₃,l₀,l₁,l₂,l₃] ++ (content ++ [r₀,r₁,r₂,r₃]),?_,least,?_⟩
      · simp only [List.append_assoc]
        rfl
      · exact .of_least least (minimum_bounds type).1 (fun _ => rfl) inside
    · cases closed
  · cases opened

/-- What is read of a block once its type and its order are known. -/
def inside (type : BlockType) (order : ByteOrder) (octets : Bytes) : Scan (Block × ByteOrder × Bytes) :=
  (Envelope.read type order octets).andThen fun (envelope,after) =>
    envelope.block?.andThen fun block => .found (block,order,after)

theorem delimits_inside {type : BlockType} {order later : ByteOrder} {octets after : Bytes} {value : Block}
    (read : inside type order octets = .found (value,later,after)) :
    ∃ piece, octets = piece ++ after ∧ type.minimum ≤ piece.length ∧
      Delimits (inside type order) piece fun more => (value,later,more) := by
  obtain ⟨⟨envelope,rest⟩,apart,read⟩ := Scan.found_of_andThen _ _ _ read
  obtain ⟨block,content,read⟩ := Scan.found_of_andThen _ _ _ read
  simp only [Scan.found.injEq,Prod.mk.injEq] at read
  obtain ⟨rfl,rfl,rfl⟩ := read
  obtain ⟨piece,rfl,least,delimits⟩ := Envelope.delimits_read apart
  refine ⟨piece,rfl,least,delimits.andThen ?_⟩
  intro more
  dsimp only
  rw [content]
  rfl

theorem block_few (order : ByteOrder) {octets : Bytes} (few : octets.length < 4) :
    block order octets = .missing (4 - octets.length) := by
  unfold block
  split
  · simp only [List.length_cons] at few
    omega
  · rfl

theorem block_take_few (order : ByteOrder) {octets : Bytes} {n : Nat} (within : n ≤ octets.length) (few : n < 4) :
    block order (octets.take n) = .missing (4 - n) := by
  have size : (octets.take n).length = n := List.length_take_of_le within
  rw [block_few order (by rw [size]; exact few),size]

/-- A block that is no section header is read in the order in force. -/
theorem block_plain (order : ByteOrder) (t₀ t₁ t₂ t₃ : UInt8) (rest : Bytes)
    (plain : BlockType.ofCode (order.word32 t₀ t₁ t₂ t₃) ≠ .section) :
    block order (t₀ :: t₁ :: t₂ :: t₃ :: rest) =
      inside (.ofCode (order.word32 t₀ t₁ t₂ t₃)) order (t₀ :: t₁ :: t₂ :: t₃ :: rest) := by
  simp only [block,if_neg plain]
  rfl

section Header
variable {order : ByteOrder} {t₀ t₁ t₂ t₃ : UInt8}
  (header : BlockType.ofCode (order.word32 t₀ t₁ t₂ t₃) = .section)
include header

/-- The order in which a section header is read is in its magic number. -/
theorem block_section {later : ByteOrder} (l₀ l₁ l₂ l₃ m₀ m₁ m₂ m₃ : UInt8)
    (known : sectionOrder? m₀ m₁ m₂ m₃ = some later) (rest : Bytes) :
    block order ([t₀,t₁,t₂,t₃,l₀,l₁,l₂,l₃,m₀,m₁,m₂,m₃] ++ rest) =
      inside .section later ([t₀,t₁,t₂,t₃,l₀,l₁,l₂,l₃,m₀,m₁,m₂,m₃] ++ rest) := by
  simp only [block,List.cons_append,List.drop_succ_cons,List.drop_zero,header,if_true,known]
  rfl

theorem block_section_few {rest : Bytes} (few : rest.length < 8) :
    block order (t₀ :: t₁ :: t₂ :: t₃ :: rest) = .missing (12 - (rest.length + 4)) := by
  simp only [block,header,if_true]
  split
  · rename_i m₀ m₁ m₂ m₃ behind there
    have size := congrArg List.length there
    simp only [List.length_drop,List.length_cons] at size
    omega
  · rfl

theorem block_section_take_few {rest : Bytes} {n : Nat} (four : ¬ n < 4) (less : n < 12)
    (within : n ≤ rest.length + 4) :
    block order ((t₀ :: t₁ :: t₂ :: t₃ :: rest).take n) = .missing (12 - n) := by
  obtain ⟨more,rfl⟩ : ∃ more, n = more + 4 := ⟨n - 4,by omega⟩
  have size : (rest.take more).length = more := List.length_take_of_le (by omega)
  simp only [List.take_succ_cons]
  rw [block_section_few header (by rw [size]; omega),size]

end Header

/-- A block whose first octets settle its type and its order. -/
theorem delimits_of_opens {type : BlockType} {order inner later : ByteOrder} {front rest after : Bytes}
    {value : Block} (opens : ∀ other, block order (front ++ other) = inside type inner (front ++ other))
    (settled : front.length ≤ type.minimum)
    (short : ∀ n < front.length, ∃ count, block order (front.take n) = .missing count ∧ n + count ≤ front.length)
    (read : block order (front ++ rest) = .found (value,later,after)) :
    ∃ piece, front ++ rest = piece ++ after ∧ Delimits (block order) piece fun more => (value,later,more) := by
  rw [opens] at read
  obtain ⟨piece,same,least,delimits⟩ := delimits_inside read
  obtain ⟨behind,rfl⟩ := exists_inner same (Nat.le_trans settled least)
  refine ⟨_,same,delimits.behind.of_front opens ?_⟩
  intro n less
  obtain ⟨count,missing,few⟩ := short n less
  exact ⟨count,missing,by omega⟩

theorem delimits_section {order later : ByteOrder} {t₀ t₁ t₂ t₃ : UInt8} {rest after : Bytes} {value : Block}
    (header : BlockType.ofCode (order.word32 t₀ t₁ t₂ t₃) = .section)
    (read : block order (t₀ :: t₁ :: t₂ :: t₃ :: rest) = .found (value,later,after)) :
    ∃ piece, t₀ :: t₁ :: t₂ :: t₃ :: rest = piece ++ after ∧
      Delimits (block order) piece fun more => (value,later,more) := by
  match rest with
  | [] | [_] | [_,_] | [_,_,_] | [_,_,_,_] | [_,_,_,_,_] | [_,_,_,_,_,_] | [_,_,_,_,_,_,_] =>
    rw [block_section_few header (by simp)] at read
    cases read
  | l₀ :: l₁ :: l₂ :: l₃ :: m₀ :: m₁ :: m₂ :: m₃ :: rest =>
    cases known : sectionOrder? m₀ m₁ m₂ m₃ with
    | none =>
      simp only [block,header,if_true,List.drop_succ_cons,List.drop_zero,known] at read
      cases read
    | some found =>
      refine delimits_of_opens (block_section header l₀ l₁ l₂ l₃ m₀ m₁ m₂ m₃ known) (show 12 ≤ 28 by decide) ?_ read
      intro n less
      by_cases four : n < 4
      · refine ⟨4 - n,block_take_few order (Nat.le_of_lt less) four,?_⟩
        simp only [List.length_cons,List.length_nil]
        omega
      · exact ⟨12 - n,block_section_take_few header four less (Nat.le_of_lt less),
          Nat.le_of_eq (Nat.add_sub_of_le (Nat.le_of_lt less))⟩

theorem delimits_block {order later : ByteOrder} {octets after : Bytes} {value : Block}
    (read : block order octets = .found (value,later,after)) :
    ∃ piece, octets = piece ++ after ∧ Delimits (block order) piece fun more => (value,later,more) := by
  match octets with
  | [] | [_] | [_,_] | [_,_,_] => cases read
  | t₀ :: t₁ :: t₂ :: t₃ :: rest =>
    by_cases header : BlockType.ofCode (order.word32 t₀ t₁ t₂ t₃) = .section
    · exact delimits_section header read
    · have opens : ∀ other, block order ([t₀,t₁,t₂,t₃] ++ other) =
          inside (.ofCode (order.word32 t₀ t₁ t₂ t₃)) order ([t₀,t₁,t₂,t₃] ++ other) :=
        fun other => block_plain order t₀ t₁ t₂ t₃ other header
      refine delimits_of_opens opens (Nat.le_trans (show 4 ≤ 8 by decide) (minimum_bounds _).1) ?_ read
      intro n less
      exact ⟨4 - n,block_take_few order (Nat.le_of_lt less) less,
        Nat.le_of_eq (Nat.add_sub_of_le (Nat.le_of_lt less))⟩

end Pcapng

end Sctp.Capture
