import Sctp.Proofs.ParsedForm
import Sctp.Proofs.RoundTrip
import Sctp.Proofs.Tiling

/-! The two arrays of a SACK chunk. Entry by entry they are the words that stand in the body where the counts
put them, as far as the body goes, and nothing else: a list of gap blocks that is cut leaves no octets to the
duplicates. What a sender lists is what is read. The main statement is `arrays_read`. -/
namespace Sctp

/-- The octets four by four; up to three at the end belong to none. -/
def fours (octets : Bytes) : List Bytes :=
  (List.range (octets.length / 4)).map fun i => slice octets (4 * i) (4 * i + 4)

theorem fours_cons (a b c d : UInt8) (rest : Bytes) : fours (a :: b :: c :: d :: rest) = [a,b,c,d] :: fours rest := by
  have quarter : (a :: b :: c :: d :: rest).length / 4 = rest.length / 4 + 1 := by
    simp only [List.length_cons]
    omega
  simp only [fours,quarter,List.range_succ_eq_map,List.map_cons,List.map_map]
  rfl

theorem fours_few {octets : Bytes} (few : octets.length < 4) : fours octets = [] := by
  simp [fours,Nat.div_eq_of_lt few]

theorem getElem?_fours (octets : Bytes) (i : Nat) :
    (fours octets)[i]? = if 4 * i + 4 ≤ octets.length then some (slice octets (4 * i) (4 * i + 4)) else none := by
  by_cases inside : 4 * i + 4 ≤ octets.length
  · rw [if_pos inside,fours,List.getElem?_map,List.getElem?_range (by omega),Option.map_some]
  · rw [if_neg inside,List.getElem?_eq_none]
    simp only [fours,List.length_map,List.length_range]
    omega

/-- The entries of an array that starts at the place and has so many at most. -/
def array (octets : Bytes) (place count : Nat) : List Bytes := (fours (octets.drop place)).take count

theorem getElem?_array (octets : Bytes) (place count i : Nat) :
    (array octets place count)[i]? =
      if i < count ∧ place + 4 * i + 4 ≤ octets.length then
        some (slice octets (place + 4 * i) (place + 4 * i + 4))
      else none := by
  rw [array,List.getElem?_take,getElem?_fours,List.length_drop,slice_drop,← Nat.add_assoc,← ite_and]
  exact if_congr (by omega) rfl rfl

theorem length_array (octets : Bytes) (place count : Nat) :
    (array octets place count).length = min count ((octets.length - place) / 4) := by
  simp [array,fours]

theorem gapOctets_word16 (s₀ s₁ e₀ e₁ : UInt8) :
    Sent.gapOctets ⟨word16 s₀ s₁,word16 e₀ e₁⟩ = [s₀,s₁,e₀,e₁] := by
  simp [Sent.gapOctets,octets16_word16]

theorem map_gapBlocks (octets : Bytes) : (gapBlocks octets).map Sent.gapOctets = fours octets := by
  fun_induction gapBlocks octets with
  | case1 s₀ s₁ e₀ e₁ rest ih => rw [List.map_cons,ih,gapOctets_word16,fours_cons]
  | case2 octets headless => rw [fours_few (length_lt_of_headless headless),List.map_nil]

theorem map_words32 (octets : Bytes) : (words32 octets).map octets32 = fours octets := by
  fun_induction words32 octets with
  | case1 a b c d rest ih => rw [List.map_cons,ih,octets32_word32,fours_cons]
  | case2 octets headless => rw [fours_few (length_lt_of_headless headless),List.map_nil]

theorem bigEndian_octets16 (word : UInt16) : bigEndian (octets16 word) = word.toNat := by
  rw [octets16,bigEndian_two,word16_octets16]

theorem bigEndian_octets32 (word : UInt32) : bigEndian (octets32 word) = word.toNat := by
  rw [octets32,bigEndian_four,word32_octets32]

theorem words_of_gapOctets {block : GapBlock} {octets : Bytes} {place : Nat}
    (read : Sent.gapOctets block = slice octets place (place + 4)) :
    block.start.toNat = bigEndian (slice octets place (place + 2)) ∧
      block.stop.toNat = bigEndian (slice octets (place + 2) (place + 4)) := by
  have front : slice octets place (place + 2) = octets16 block.start := by
    rw [← take_slice octets place (show 2 ≤ 4 by decide),← read]
    rfl
  have back : slice octets (place + 2) (place + 4) = octets16 block.stop := by
    rw [← drop_slice,← read]
    rfl
  rw [front,back,bigEndian_octets16,bigEndian_octets16]
  exact ⟨rfl,rfl⟩

namespace SackFields

/-- The fields of a SACK are read from its body: an entry that the counts announce and the body holds whole is
the word or the two words at its place, and any other reads 0 and is not listed. -/
structure ReadFrom (fields : SackFields) (body : Bytes) : Prop where
  gapCount : fields.gapCount.toNat = bigEndian (slice body 8 10)
  dupCount : fields.dupCount.toNat = bigEndian (slice body 10 12)
  gapStart : ∀ i, (fields.gapStart i).toNat =
    if i < fields.gapCount.toNat ∧ 16 + 4 * i ≤ body.length then bigEndian (slice body (12 + 4 * i) (14 + 4 * i))
    else 0
  gapStop : ∀ i, (fields.gapStop i).toNat =
    if i < fields.gapCount.toNat ∧ 16 + 4 * i ≤ body.length then bigEndian (slice body (14 + 4 * i) (16 + 4 * i))
    else 0
  dup : ∀ i, (fields.dup i).toNat =
    if i < fields.dupCount.toNat ∧ 16 + 4 * fields.gapCount.toNat + 4 * i ≤ body.length then
      bigEndian (slice body (12 + 4 * fields.gapCount.toNat + 4 * i) (16 + 4 * fields.gapCount.toNat + 4 * i))
    else 0
  gaps : fields.gaps = (List.range (min fields.gapCount.toNat ((body.length - 12) / 4))).map fun i =>
    ⟨fields.gapStart i,fields.gapStop i⟩
  dups : fields.dups = (List.range (min fields.dupCount.toNat
    ((body.length - 12 - 4 * fields.gapCount.toNat) / 4))).map fields.dup
  before : ∀ i < fields.gaps.length, 16 + 4 * i ≤ 12 + 4 * fields.gapCount.toNat
  cut : body.length ≤ 12 + 4 * fields.gapCount.toNat → fields.dups = []

theorem gaps_eq_map (fields : SackFields) :
    fields.gaps = (List.range fields.gaps.length).map fun i => ⟨fields.gapStart i,fields.gapStop i⟩ := by
  apply List.ext_getElem
  · simp
  · intro i inside _
    simp [gapStart,gapStop,inside]

theorem dups_eq_map (fields : SackFields) : fields.dups = (List.range fields.dups.length).map fields.dup := by
  apply List.ext_getElem
  · simp
  · intro i inside _
    simp [dup,inside]

/-- Both arrays four octets by four octets, as they stand in the body. -/
structure Fours (fields : SackFields) (body : Bytes) : Prop where
  gapCount : octets16 fields.gapCount = slice body 8 10
  dupCount : octets16 fields.dupCount = slice body 10 12
  gaps : fields.gaps.map Sent.gapOctets = array body 12 fields.gapCount.toNat
  dups : fields.dups.map octets32 = array body (12 + 4 * fields.gapCount.toNat) fields.dupCount.toNat

theorem exists_fours (body : Bytes) (whole : 12 ≤ body.length) :
    ∃ fields, ofBody? body = some fields ∧ fields.Fours body := by
  match body, whole with
  | t₀ :: t₁ :: t₂ :: t₃ :: w₀ :: w₁ :: w₂ :: w₃ :: g₀ :: g₁ :: d₀ :: d₁ :: rest, _ =>
    refine ⟨_,rfl,?_,?_,?_,?_⟩
    · simp [octets16_word16,slice]
    · simp [octets16_word16,slice]
    · rw [List.map_take,map_gapBlocks]
      rfl
    · rw [List.map_take,map_words32,array,← List.drop_drop]
      rfl

section Fours
variable {fields : SackFields} {body : Bytes} (read : fields.Fours body)
include read

theorem Fours.length_gaps : fields.gaps.length = min fields.gapCount.toNat ((body.length - 12) / 4) := by
  have size := congrArg List.length read.gaps
  rwa [List.length_map,length_array] at size

theorem Fours.length_dups : fields.dups.length =
    min fields.dupCount.toNat ((body.length - 12 - 4 * fields.gapCount.toNat) / 4) := by
  have size := congrArg List.length read.dups
  rwa [List.length_map,length_array,← Nat.sub_sub] at size

theorem Fours.gap (i : Nat) :
    (fields.gapStart i).toNat =
        (if i < fields.gapCount.toNat ∧ 16 + 4 * i ≤ body.length then
          bigEndian (slice body (12 + 4 * i) (14 + 4 * i)) else 0) ∧
      (fields.gapStop i).toNat =
        if i < fields.gapCount.toNat ∧ 16 + 4 * i ≤ body.length then
          bigEndian (slice body (14 + 4 * i) (16 + 4 * i)) else 0 := by
  have entry := congrArg (·[i]?) read.gaps
  simp only [List.getElem?_map,getElem?_array] at entry
  rw [gapStart,gapStop]
  by_cases held : i < fields.gapCount.toNat ∧ 16 + 4 * i ≤ body.length
  · rw [if_pos (by omega),Option.map_eq_some_iff] at entry
    obtain ⟨block,there,shown⟩ := entry
    obtain ⟨start,stop⟩ := words_of_gapOctets shown
    rw [there,if_pos held,if_pos held]
    simp only [Option.map_some,Option.getD_some,start,stop]
    rw [show 12 + 4 * i + 2 = 14 + 4 * i by omega,show 12 + 4 * i + 4 = 16 + 4 * i by omega]
    exact ⟨rfl,rfl⟩
  · rw [if_neg (by omega),Option.map_eq_none_iff] at entry
    rw [entry,if_neg held,if_neg held]
    exact ⟨rfl,rfl⟩

theorem Fours.dup (i : Nat) : (fields.dup i).toNat =
    if i < fields.dupCount.toNat ∧ 16 + 4 * fields.gapCount.toNat + 4 * i ≤ body.length then
      bigEndian (slice body (12 + 4 * fields.gapCount.toNat + 4 * i) (16 + 4 * fields.gapCount.toNat + 4 * i))
    else 0 := by
  have entry := congrArg (·[i]?) read.dups
  simp only [List.getElem?_map,getElem?_array] at entry
  rw [SackFields.dup]
  by_cases held : i < fields.dupCount.toNat ∧ 16 + 4 * fields.gapCount.toNat + 4 * i ≤ body.length
  · rw [if_pos (by omega),Option.map_eq_some_iff] at entry
    obtain ⟨tsn,there,shown⟩ := entry
    rw [there,if_pos held,Option.getD_some,← bigEndian_octets32,shown]
    congr 2
    omega
  · rw [if_neg (by omega),Option.map_eq_none_iff] at entry
    rw [entry,if_neg held]
    rfl

theorem Fours.readFrom : fields.ReadFrom body where
  gapCount := by rw [← read.gapCount,bigEndian_octets16]
  dupCount := by rw [← read.dupCount,bigEndian_octets16]
  gapStart i := (read.gap i).1
  gapStop i := (read.gap i).2
  dup := read.dup
  gaps := by
    rw [← read.length_gaps]
    exact fields.gaps_eq_map
  dups := by
    rw [← read.length_dups]
    exact fields.dups_eq_map
  before i inside := by
    rw [read.length_gaps] at inside
    omega
  cut short := by
    apply List.eq_nil_of_length_eq_zero
    rw [read.length_dups]
    omega

end Fours

end SackFields

theorem Sent.sack_fits (cumulativeTsn window : UInt32) (gaps : List GapBlock) (dups : List UInt32)
    (fits : 16 + 4 * (gaps.length + dups.length) ≤ 65535) :
    (Body.sack cumulativeTsn window gaps dups).octets.length + 4 < 65536 := by
  have gaps_length := length_of_four gapOctets (fun _ => rfl) gaps
  have dups_length := length_of_four octets32 (fun _ => rfl) dups
  simp only [Body.octets,List.length_append,gaps_length,dups_length,octets32,octets16,List.length_cons,
    List.length_nil]
  omega

/-- A SACK as its sender means it. Its length has to fit the head. -/
def Sent.sackChunk (action flags : UInt8) (two_bits : action < 4) (cumulativeTsn window : UInt32)
    (gaps : List GapBlock) (dups : List UInt32) (fits : 16 + 4 * (gaps.length + dups.length) ≤ 65535) :
    Sent.Chunk where
  action := action
  flags := flags
  body := .sack cumulativeTsn window gaps dups
  two_bits := two_bits
  fits := sack_fits cumulativeTsn window gaps dups fits

theorem Content.ofRaw_sack {raw : RawChunk} {fields : SackFields} (typed : raw.typeCode = 3)
    (read : SackFields.ofBody? raw.body = some fields) : Content.ofRaw raw = .sack fields := by
  rw [Content.ofRaw,typed]
  change (SackFields.ofBody? raw.body).elim Content.generic Content.sack = _
  rw [read]
  rfl

theorem Sent.Chunk.walk_octets (chunk : Sent.Chunk) : Area.walk chunk.octets = ([chunk.raw 0],.complete) := by
  have walk := chunk.walkFrom_octets 0 0 [] [] (.inr ⟨Nat.zero_le _,rfl⟩)
  simpa [Area.walk,Area.walkFrom] using walk

namespace SackFields

theorem arrays_read :
    (∀ raw : RawChunk, raw.typeCode = 3 → 12 ≤ raw.body.length →
        ∃ fields, Content.ofRaw raw = .sack fields ∧ fields.ReadFrom raw.body) ∧
      ∀ (action flags : UInt8) (two_bits : action < 4) (cumulativeTsn window : UInt32) (gaps : List GapBlock)
        (dups : List UInt32) (fits : 16 + 4 * (gaps.length + dups.length) ≤ 65535), ∃ raw fields,
          Area.walk (Sent.sackChunk action flags two_bits cumulativeTsn window gaps dups fits).octets =
              ([raw],.complete) ∧
            Content.ofRaw raw = .sack fields ∧ fields.gaps = gaps ∧ fields.dups = dups := by
  constructor
  · intro raw typed whole
    obtain ⟨fields,read,fours⟩ := exists_fours raw.body whole
    exact ⟨fields,Content.ofRaw_sack typed read,fours.readFrom⟩
  · intro action flags two_bits cumulativeTsn window gaps dups fits
    generalize made : Sent.sackChunk action flags two_bits cumulativeTsn window gaps dups fits = chunk
    have body : chunk.body = .sack cumulativeTsn window gaps dups := by
      rw [← made]
      rfl
    have short := chunk.fits
    rw [body] at short
    have read := Sent.Body.sackFields_octets cumulativeTsn window gaps dups (by omega)
    have typed := chunk.typeCode_raw 0
    rw [← body] at read
    rw [body] at typed
    exact ⟨chunk.raw 0,_,chunk.walk_octets,Content.ofRaw_sack typed read,rfl,rfl⟩

/-- A SACK that announces three gap blocks and two duplicates, and whose body ends within the second block. -/
def cutSack : RawChunk where
  lead := 3
  flags := 0
  declared := 36
  body := [0, 0, 0, 7, 0, 0, 16, 0, 0, 3, 0, 2, 0, 4, 0, 6, 0, 9]
  index := 0

theorem arrays_read_cutSack :
    cutSack.typeCode = 3 ∧ 12 ≤ cutSack.body.length ∧
      (∃ fields, Content.ofRaw cutSack = .sack fields ∧ fields.ReadFrom cutSack.body) ∧
      ∃ raw fields, Area.walk (Sent.sackChunk 0 0 (by decide) 1000 4096 [⟨2,3⟩,⟨5,9⟩] [998] (by decide)).octets =
          ([raw],.complete) ∧
        Content.ofRaw raw = .sack fields ∧ fields.gaps = [⟨2,3⟩,⟨5,9⟩] ∧ fields.dups = [998] :=
  ⟨by decide,by decide,arrays_read.1 cutSack (by decide) (by decide),
    arrays_read.2 0 0 (by decide) 1000 4096 [⟨2,3⟩,⟨5,9⟩] [998] (by decide)⟩

end SackFields

end Sctp
