import Sctp.Packet
import Sctp.Proofs.Tiling

/-! A chunk area of which only the first octets are there. The chunks found in it are those of the whole
area whose heads are within these octets, each with what they hold of its body, and its status tells at
which chunk of the whole the cut is and how far behind the start of that (`CutEnd`). The main statement
is `walk_take`. -/
namespace Sctp

/-- The chunk with so many octets of its body at most. -/
def RawChunk.cut (size : Nat) (raw : RawChunk) : RawChunk := { raw with body := raw.body.take size }

/-- Where a walk ended with octets left that are no chunk. -/
def AreaStatus.place? : AreaStatus → Option Nat
  | .trailing place _ => some place
  | .badLength place _ _ => some place
  | .complete | .truncated _ _ _ => none

theorem AreaStatus.place?_shift (distance : Nat) (status : AreaStatus) :
    (status.shift distance).place? = status.place?.map (distance + ·) := by
  cases status <;> rfl

namespace Area

/-- The chunks whose heads are within the first octets, with what these hold of the bodies. -/
def cutChunks (size : Nat) : List RawChunk → List RawChunk
  | [] => []
  | chunk :: later =>
    if size < 4 then [] else chunk.cut (size - 4) :: cutChunks (size - chunk.wireLength) later

theorem cutChunks_few {size : Nat} (few : size < 4) (chunks : List RawChunk) : cutChunks size chunks = [] := by
  cases chunks with
  | nil => rfl
  | cons chunk later => exact if_pos few

theorem getElem?_cutChunks (size : Nat) (chunks : List RawChunk) (i : Nat) :
    (cutChunks size chunks)[i]? =
      if chunkOffset chunks i + 4 ≤ size then
        chunks[i]?.map (RawChunk.cut (size - chunkOffset chunks i - 4))
      else none := by
  induction chunks generalizing size i with
  | nil => simp [cutChunks]
  | cons chunk later ih =>
    rw [cutChunks]
    by_cases few : size < 4
    · rw [if_pos few,if_neg (by omega)]
      rfl
    rw [if_neg few]
    cases i with
    | zero =>
      rw [chunkOffset_zero,if_pos (by omega)]
      rfl
    | succ i =>
      rw [chunkOffset_cons,List.getElem?_cons_succ,List.getElem?_cons_succ,ih,← Nat.sub_sub size]
      exact if_congr (by omega) rfl rfl

/-- A place where the walk looks for a chunk: it finds one, or ends there with octets left. -/
inductive Starts (chunks : List RawChunk) (status : AreaStatus) (place : Nat) : Prop
  | chunk (i : Nat) (inside : i < chunks.length) (there : place = chunkOffset chunks i)
  | ending (there : status.place? = some place)

/-- How the walk of the first octets ends other than completely, told by the chunks and the status of the
whole: within a chunk, within a head, or at a length that is bad. -/
inductive CutEnd (size : Nat) (chunks : List RawChunk) (status : AreaStatus) : AreaStatus → Prop
  | truncated (i : Nat) (inside : i < chunks.length) (head : chunkOffset chunks i + 4 ≤ size)
    (cut : size < chunkOffset chunks i + chunks[i].length) :
    CutEnd size chunks status
      (.truncated (chunkOffset chunks i) chunks[i].declared (size - chunkOffset chunks i))
  | trailing (place : Nat) (starts : Starts chunks status place) (some_left : 0 < size - place)
    (few : size - place < 4) : CutEnd size chunks status (.trailing place (size - place))
  | badLength (place : Nat) (declared : UInt16) (skipped : Nat)
    (ends : status = .badLength place declared skipped) (head : place + 4 ≤ size) :
    CutEnd size chunks status (.badLength place declared (size - place))

/-- The status is the one that the cut gives, and complete if it gives none. -/
structure EndsAtCut (size : Nat) (chunks : List RawChunk) (status reported : AreaStatus) : Prop where
  ends : ∀ other, CutEnd size chunks status other → reported = other
  otherwise : (∀ other, ¬ CutEnd size chunks status other) → reported = .complete

section FirstChunk
variable {size : Nat} {chunk : RawChunk} {later : List RawChunk} {status : AreaStatus}

theorem Starts.cons {place : Nat} (starts : Starts later status place) :
    Starts (chunk :: later) (status.shift chunk.wireLength) (chunk.wireLength + place) := by
  cases starts with
  | chunk i inside there =>
    refine .chunk (i + 1) (Nat.succ_lt_succ inside) ?_
    rw [chunkOffset_cons,there]
  | ending there =>
    apply Starts.ending
    rw [AreaStatus.place?_shift,there,Option.map_some]

theorem Starts.of_cons {place : Nat} (starts : Starts (chunk :: later) (status.shift chunk.wireLength) place) :
    place = 0 ∨ ∃ behind, place = chunk.wireLength + behind ∧ Starts later status behind := by
  cases starts with
  | chunk i inside there =>
    cases i with
    | zero => exact .inl there
    | succ i =>
      rw [chunkOffset_cons] at there
      exact .inr ⟨_,there,.chunk i (Nat.lt_of_succ_lt_succ inside) rfl⟩
  | ending there =>
    rw [AreaStatus.place?_shift,Option.map_eq_some_iff] at there
    obtain ⟨behind,there,rfl⟩ := there
    exact .inr ⟨behind,rfl,.ending there⟩

theorem CutEnd.cons {other : AreaStatus} (cut : CutEnd (size - chunk.wireLength) later status other) :
    CutEnd size (chunk :: later) (status.shift chunk.wireLength) (other.shift chunk.wireLength) := by
  cases cut with
  | truncated i inside head cut =>
    have inside' : i + 1 < (chunk :: later).length := Nat.succ_lt_succ inside
    rw [AreaStatus.shift,Nat.sub_sub,← chunkOffset_cons]
    refine .truncated (i + 1) inside' ?_ ?_
    · rw [chunkOffset_cons]
      omega
    · rw [chunkOffset_cons,List.getElem_cons_succ]
      omega
  | trailing place starts some_left few =>
    rw [Nat.sub_sub] at some_left few
    rw [AreaStatus.shift,Nat.sub_sub]
    exact .trailing _ starts.cons some_left few
  | badLength place declared skipped ends head =>
    subst ends
    rw [AreaStatus.shift,Nat.sub_sub]
    exact .badLength _ _ skipped rfl (by omega)

/-- A cut behind a whole chunk is a cut of what follows that chunk. -/
theorem CutEnd.of_cons {other : AreaStatus}
    (cut : CutEnd size (chunk :: later) (status.shift chunk.wireLength) other) (enough : 4 ≤ size)
    (whole : chunk.length ≤ size) :
    ∃ behind, other = behind.shift chunk.wireLength ∧
      CutEnd (size - chunk.wireLength) later status behind := by
  generalize shifted : status.shift chunk.wireLength = moved at cut
  cases cut with
  | truncated i inside head cut =>
    cases i with
    | zero =>
      rw [chunkOffset_zero,List.getElem_cons_zero] at cut
      omega
    | succ i =>
      rw [chunkOffset_cons] at head
      rw [chunkOffset_cons,List.getElem_cons_succ] at cut
      refine ⟨_,?_,.truncated i (Nat.lt_of_succ_lt_succ inside) (by omega) (by omega)⟩
      rw [chunkOffset_cons,List.getElem_cons_succ,AreaStatus.shift,Nat.sub_sub]
  | trailing place starts some_left few =>
    subst shifted
    obtain rfl | ⟨behind,rfl,found⟩ := starts.of_cons
    · omega
    · rw [← Nat.sub_sub] at some_left few ⊢
      exact ⟨_,rfl,.trailing behind found some_left few⟩
  | badLength place declared skipped ends head =>
    subst ends
    cases status with
    | badLength behind declared skipped =>
      cases shifted
      rw [← Nat.sub_sub]
      exact ⟨_,rfl,.badLength behind declared skipped rfl (by omega)⟩
    | complete | trailing _ _ | truncated _ _ _ => cases shifted

theorem EndsAtCut.cons {reported : AreaStatus}
    (ends : EndsAtCut (size - chunk.wireLength) later status reported) (enough : 4 ≤ size)
    (whole : chunk.length ≤ size) :
    EndsAtCut size (chunk :: later) (status.shift chunk.wireLength) (reported.shift chunk.wireLength) where
  ends other cut := by
    obtain ⟨behind,rfl,later⟩ := cut.of_cons enough whole
    rw [ends.ends behind later]
  otherwise none := by
    rw [ends.otherwise fun other cut => none _ cut.cons]
    rfl

/-- Only the first chunk starts before the first one ends. -/
theorem Starts.zero_or_behind {place : Nat}
    (behind : ∀ place, status.place? = some place → chunk.wireLength ≤ place)
    (starts : Starts (chunk :: later) status place) : place = 0 ∨ chunk.wireLength ≤ place := by
  cases starts with
  | chunk i inside there =>
    cases i with
    | zero => exact .inl there
    | succ i =>
      rw [there,chunkOffset_cons]
      exact .inr (Nat.le_add_right _ _)
  | ending there => exact .inr (behind place there)

theorem endsAtCut_within (enough : 4 ≤ size) (cut : size < chunk.length)
    (behind : ∀ place, status.place? = some place → chunk.wireLength ≤ place) :
    EndsAtCut size (chunk :: later) status (.truncated 0 chunk.declared size) := by
  have padded : chunk.length ≤ chunk.wireLength := le_align4 _
  constructor
  · intro other ends
    cases ends with
    | truncated i inside head _ =>
      cases i with
      | zero => rfl
      | succ i =>
        rw [chunkOffset_cons] at head
        omega
    | trailing place starts some_left few =>
      obtain rfl | far := starts.zero_or_behind behind <;> omega
    | badLength place declared skipped ends head =>
      have far := behind place (ends ▸ rfl)
      omega
  · intro none
    have inside : 0 < (chunk :: later).length := Nat.zero_lt_succ _
    refine absurd (.truncated 0 inside ?_ ?_) (none _)
    · rw [chunkOffset_zero]
      omega
    · rw [chunkOffset_zero,List.getElem_cons_zero,Nat.zero_add]
      exact cut

end FirstChunk

theorem endsAtCut_few {size : Nat} {chunks : List RawChunk} {status : AreaStatus} (few : size < 4)
    (first : 0 < size → Starts chunks status 0)
    (apart : ∀ place, Starts chunks status place → place = 0 ∨ 4 ≤ place) :
    EndsAtCut size chunks status (if size = 0 then .complete else .trailing 0 size) := by
  constructor
  · intro other cut
    cases cut with
    | truncated i inside head cut => omega
    | trailing place starts some_left few =>
      obtain rfl | far := apart place starts
      · exact if_neg (by omega)
      · omega
    | badLength place declared skipped ends head => omega
  · intro none
    by_cases empty : size = 0
    · exact if_pos empty
    · exact absurd (.trailing 0 (first (by omega)) (by omega) (by omega)) (none _)

/-- A walk that finds no chunk only starts where it ends. -/
theorem Starts.place_of_nil {status : AreaStatus} {place : Nat} (starts : Starts [] status place) :
    status.place? = some place := by
  cases starts with
  | chunk i inside => exact absurd inside (Nat.not_lt_zero _)
  | ending there => exact there

theorem endsAtCut_badLength {size : Nat} {declared : UInt16} {skipped : Nat} (enough : 4 ≤ size) :
    EndsAtCut size [] (.badLength 0 declared skipped) (.badLength 0 declared size) := by
  constructor
  · intro other cut
    cases cut with
    | truncated i inside => exact absurd inside (Nat.not_lt_zero _)
    | trailing place starts some_left few =>
      cases starts.place_of_nil
      omega
    | badLength place declared skipped ends head =>
      cases ends
      rfl
  · intro none
    exact absurd (.badLength 0 declared skipped rfl (by omega)) (none _)

/-- What the walk of the first octets comes to, given what the walk of the whole area came to. -/
structure CutWalk (start size : Nat) (whole cut : List RawChunk × AreaStatus) : Prop where
  chunks : cut.1 = cutChunks size whole.1
  status : ∃ status reported, whole.2 = status.shift start ∧ cut.2 = reported.shift start ∧
    EndsAtCut size whole.1 status reported

theorem walkFrom_few (start index : Nat) {area : Bytes} (few : area.length < 4) :
    walkFrom start index area =
      ([],if area.length = 0 then .complete else .trailing start area.length) := by
  match area, few with
  | [], _ | [_], _ | [_,_], _ | [_,_,_], _ => simp [walkFrom]
  | _ :: _ :: _ :: _ :: _, few =>
    simp only [List.length_cons] at few
    omega

/-- The cut leaves less than the head of the first chunk. -/
theorem cutWalk_few {start index size : Nat} {area : Bytes} {chunks : List RawChunk} (status : AreaStatus)
    (within : size ≤ area.length) (few : size < 4) (first : 0 < size → Starts chunks status 0)
    (apart : ∀ place, Starts chunks status place → place = 0 ∨ 4 ≤ place) :
    CutWalk start size (chunks,status.shift start) (walkFrom start index (area.take size)) := by
  have length : (area.take size).length = size := List.length_take_of_le within
  rw [walkFrom_few start index (by rw [length]; exact few),length]
  refine ⟨(cutChunks_few few chunks).symm,status,_,rfl,?_,endsAtCut_few few first apart⟩
  by_cases empty : size = 0
  · rw [if_pos empty,if_pos empty]
    rfl
  · rw [if_neg empty,if_neg empty]
    rfl

section Heads
variable {start index size : Nat} {lead flags l₀ l₁ : UInt8} {rest : Bytes}

/-- The cut is within the body of the first chunk. -/
theorem cutWalk_within {later : List RawChunk} (status : AreaStatus) (within : size ≤ rest.length + 4)
    (enough : 4 ≤ size) (cut : size < (word16 l₀ l₁).toNat)
    (behind : ∀ place, status.place? = some place → align4 (word16 l₀ l₁).toNat ≤ place) :
    CutWalk start size
      (⟨lead,flags,word16 l₀ l₁,rest.take ((word16 l₀ l₁).toNat - 4),index⟩ :: later,status.shift start)
      (walkFrom start index ((lead :: flags :: l₀ :: l₁ :: rest).take size)) := by
  have ends : EndsAtCut size (⟨lead,flags,word16 l₀ l₁,rest.take ((word16 l₀ l₁).toNat - 4),index⟩ :: later)
      status (.truncated 0 (word16 l₀ l₁) size) := endsAtCut_within enough cut behind
  have padded := le_align4 (word16 l₀ l₁).toNat
  obtain ⟨more,rfl⟩ : ∃ more, size = more + 4 := ⟨size - 4,by omega⟩
  have left : (rest.take more).length = more := List.length_take_of_le (by omega)
  have body : (rest.take more).take ((word16 l₀ l₁).toNat - 4) = rest.take more :=
    List.take_of_length_le (by omega)
  have step : walkFrom start index ((lead :: flags :: l₀ :: l₁ :: rest).take (more + 4)) =
      ([⟨lead,flags,word16 l₀ l₁,rest.take more,index⟩],.truncated start (word16 l₀ l₁) (more + 4)) := by
    simp only [List.take_succ_cons,walkFrom]
    rw [if_neg (by omega),body,left,if_pos (by omega)]
  have none_later : cutChunks (more + 4 - align4 (word16 l₀ l₁).toNat) later = [] :=
    cutChunks_few (by omega) later
  rw [step]
  refine ⟨?_,status,_,rfl,rfl,ends⟩
  rw [cutChunks,if_neg (by omega),RawChunk.cut,Nat.add_sub_cancel,List.take_take,Nat.min_eq_left (by omega)]
  exact congrArg _ none_later.symm

theorem cutWalk_badLength (within : size ≤ rest.length + 4) (enough : 4 ≤ size)
    (short : (word16 l₀ l₁).toNat < 4) :
    CutWalk start size ([],.badLength start (word16 l₀ l₁) (rest.length + 4))
      (walkFrom start index ((lead :: flags :: l₀ :: l₁ :: rest).take size)) := by
  obtain ⟨more,rfl⟩ : ∃ more, size = more + 4 := ⟨size - 4,by omega⟩
  have step : walkFrom start index ((lead :: flags :: l₀ :: l₁ :: rest).take (more + 4)) =
      ([],.badLength start (word16 l₀ l₁) (more + 4)) := by
    simp only [List.take_succ_cons,walkFrom]
    rw [if_pos short,List.length_take_of_le (by omega)]
  rw [step]
  exact ⟨rfl,.badLength 0 _ _,_,rfl,rfl,endsAtCut_badLength enough⟩

/-- The first chunk is whole, and the walk goes on with what the cut leaves behind it. -/
theorem walkFrom_take_of_whole (within : size ≤ rest.length + 4) (covers : 4 ≤ (word16 l₀ l₁).toNat)
    (whole : (word16 l₀ l₁).toNat ≤ size) :
    walkFrom start index ((lead :: flags :: l₀ :: l₁ :: rest).take size) =
      let later := walkFrom (start + align4 (word16 l₀ l₁).toNat) (index + 1)
        ((rest.drop (align4 (word16 l₀ l₁).toNat - 4)).take (size - align4 (word16 l₀ l₁).toNat))
      (⟨lead,flags,word16 l₀ l₁,rest.take ((word16 l₀ l₁).toNat - 4),index⟩ :: later.1,later.2) := by
  obtain ⟨more,rfl⟩ : ∃ more, size = more + 4 := ⟨size - 4,by omega⟩
  have padded := le_align4 (word16 l₀ l₁).toNat
  have body : (rest.take more).take ((word16 l₀ l₁).toNat - 4) = rest.take ((word16 l₀ l₁).toNat - 4) := by
    rw [List.take_take,Nat.min_eq_left (by omega)]
  have behind : (rest.take more).drop (align4 (word16 l₀ l₁).toNat - 4) =
      (rest.drop (align4 (word16 l₀ l₁).toNat - 4)).take (more + 4 - align4 (word16 l₀ l₁).toNat) := by
    rw [List.drop_take,show more - (align4 (word16 l₀ l₁).toNat - 4) =
      more + 4 - align4 (word16 l₀ l₁).toNat by omega]
  have full : ¬ (rest.take ((word16 l₀ l₁).toNat - 4)).length < (word16 l₀ l₁).toNat - 4 := by
    rw [List.length_take]
    omega
  simp only [List.take_succ_cons]
  rw [walkFrom]
  dsimp only
  rw [if_neg (Nat.not_lt.mpr covers),body,behind,if_neg full]

/-- A walk of what is behind the first chunk, and of what the cut leaves of that, is one of the whole. -/
theorem cutWalk_cons (within : size ≤ rest.length + 4) (covers : 4 ≤ (word16 l₀ l₁).toNat)
    {later : List RawChunk × AreaStatus}
    (behind : CutWalk (start + align4 (word16 l₀ l₁).toNat) (size - align4 (word16 l₀ l₁).toNat) later
      (walkFrom (start + align4 (word16 l₀ l₁).toNat) (index + 1)
        ((rest.drop (align4 (word16 l₀ l₁).toNat - 4)).take (size - align4 (word16 l₀ l₁).toNat)))) :
    CutWalk start size
      (⟨lead,flags,word16 l₀ l₁,rest.take ((word16 l₀ l₁).toNat - 4),index⟩ :: later.1,later.2)
      (walkFrom start index ((lead :: flags :: l₀ :: l₁ :: rest).take size)) := by
  obtain ⟨chunks,status,reported,same,same',ends⟩ := behind
  rw [← AreaStatus.shift_shift] at same same'
  have padded := le_align4 (word16 l₀ l₁).toNat
  have beyond : ∀ place, (status.shift (align4 (word16 l₀ l₁).toNat)).place? = some place →
      align4 (word16 l₀ l₁).toNat ≤ place := by
    intro place there
    rw [AreaStatus.place?_shift,Option.map_eq_some_iff] at there
    obtain ⟨own,-,rfl⟩ := there
    exact Nat.le_add_right _ _
  rw [same]
  by_cases few : size < 4
  · refine cutWalk_few _ within few (fun _ => .chunk 0 (Nat.zero_lt_succ _) rfl) ?_
    intro place starts
    obtain rfl | far := starts.zero_or_behind beyond
    · exact .inl rfl
    · exact .inr (Nat.le_trans covers (Nat.le_trans padded far))
  by_cases short : size < (word16 l₀ l₁).toNat
  · exact cutWalk_within _ within (Nat.not_lt.mp few) short beyond
  · rw [walkFrom_take_of_whole within covers (Nat.not_lt.mp short)]
    refine ⟨?_,_,_,rfl,same',ends.cons (Nat.not_lt.mp few) (Nat.not_lt.mp short)⟩
    have bounded : (rest.take ((word16 l₀ l₁).toNat - 4)).length ≤ (word16 l₀ l₁).toNat - 4 :=
      List.length_take_le _ _
    have kept : (rest.take ((word16 l₀ l₁).toNat - 4)).take (size - 4) = rest.take ((word16 l₀ l₁).toNat - 4) :=
      List.take_of_length_le (by omega)
    rw [cutChunks,if_neg few,RawChunk.cut,kept]
    exact congrArg _ chunks

end Heads

/-- The whole area and its first octets are walked side by side: both walks take the same steps up to the
chunk in which the cut falls. -/
theorem cutWalk_walkFrom (start index : Nat) (area : Bytes) (size : Nat) (within : size ≤ area.length) :
    CutWalk start size (walkFrom start index area) (walkFrom start index (area.take size)) := by
  fun_induction walkFrom start index area generalizing size with
  | case1 start index lead flags l₀ l₁ rest declared short =>
    by_cases few : size < 4
    · refine cutWalk_few (.badLength 0 declared (rest.length + 4)) within few
        (fun _ => .ending rfl) ?_
      intro place starts
      exact .inl (Option.some.inj starts.place_of_nil).symm
    · exact cutWalk_badLength within (Nat.not_lt.mp few) short
  | case2 start index lead flags l₀ l₁ rest declared body covers cut =>
    by_cases few : size < 4
    · refine cutWalk_few (.truncated 0 declared (rest.length + 4)) within few
        (fun _ => .chunk 0 Nat.zero_lt_one rfl) ?_
      rintro place (⟨i,inside,rfl⟩ | there)
      · obtain rfl : i = 0 := by simpa using inside
        exact .inl rfl
      · cases there
    · have short : size < declared.toNat := by
        simp only [body,List.length_take] at cut
        simp only [List.length_cons] at within
        omega
      refine cutWalk_within (.truncated 0 declared (rest.length + 4)) within (Nat.not_lt.mp few) short ?_
      intro place there
      cases there
  | case3 start index lead flags l₀ l₁ rest declared body covers whole later ih =>
    have padded : declared.toNat ≤ align4 declared.toNat := le_align4 _
    have lesser : size - align4 declared.toNat ≤ (rest.drop (align4 declared.toNat - 4)).length := by
      simp only [List.length_cons] at within
      rw [List.length_drop]
      omega
    exact cutWalk_cons within (Nat.not_lt.mp covers) (ih _ lesser)
  | case4 start index =>
    obtain rfl : size = 0 := by simpa using within
    refine cutWalk_few .complete within (by omega) (fun some_octet => absurd some_octet (Nat.lt_irrefl 0)) ?_
    intro place starts
    cases starts.place_of_nil
  | case5 start index rest headless nonempty =>
    have few := length_lt_of_headless headless
    refine cutWalk_few (.trailing 0 rest.length) within (by omega) (fun _ => .ending rfl) ?_
    intro place starts
    exact .inl (Option.some.inj starts.place_of_nil).symm

/-- What a cut leaves of a walk: the chunks whose heads are within the first octets and nothing else, and
the status that the cut gives. -/
structure CutShort (size : Nat) (whole cut : List RawChunk × AreaStatus) : Prop where
  chunks : ∀ i, cut.1[i]? =
    if chunkOffset whole.1 i + 4 ≤ size then
      whole.1[i]?.map (RawChunk.cut (size - chunkOffset whole.1 i - 4))
    else none
  status : EndsAtCut size whole.1 whole.2 cut.2

theorem cutShort_walk (area : Bytes) (size : Nat) (within : size ≤ area.length) :
    CutShort size (walk area) (walk (area.take size)) := by
  obtain ⟨chunks,status,reported,same,same',ends⟩ := cutWalk_walkFrom 0 0 area size within
  rw [AreaStatus.shift_zero] at same same'
  subst same same'
  refine ⟨?_,ends⟩
  intro i
  rw [← getElem?_cutChunks]
  exact congrArg (·[i]?) chunks

/-- The chunk is there in the whole packet, with the same head and at least the same octets behind it. -/
def PartOf (chunk whole : Chunk) : Prop :=
  chunk.raw.index = whole.raw.index ∧ chunk.raw.head = whole.raw.head ∧ chunk.raw.body <+: whole.raw.body

theorem partOf_of_cutShort {size : Nat} {whole cut : List RawChunk × AreaStatus}
    (short : CutShort size whole cut) (chunk : Chunk) (member : chunk ∈ cut.1.map Chunk.ofRaw) :
    ∃ full ∈ whole.1.map Chunk.ofRaw, PartOf chunk full := by
  obtain ⟨raw,found,rfl⟩ := List.mem_map.mp member
  obtain ⟨i,there⟩ := List.mem_iff_getElem?.mp found
  rw [short.chunks] at there
  split at there
  · obtain ⟨full,listed,rfl⟩ := Option.map_eq_some_iff.mp there
    exact ⟨.ofRaw full,List.mem_map_of_mem (List.mem_of_getElem? listed),rfl,rfl,List.take_prefix _ _⟩
  · cases there

theorem walk_take (area : Bytes) (size : Nat) (within : size ≤ area.length) :
    CutShort size (walk area) (walk (area.take size)) ∧
      ∀ header : Header, ∃ whole cut, Packet.decode (header.octets ++ area) = .ok whole ∧
        Packet.decode (header.octets ++ area.take size) = .ok cut ∧ cut.header = whole.header ∧
          ∀ chunk ∈ cut.chunks, ∃ full ∈ whole.chunks, PartOf chunk full := by
  have short := cutShort_walk area size within
  refine ⟨short,fun header => ⟨.ofParts header area,.ofParts header (area.take size),?_,?_,rfl,?_⟩⟩
  · rw [Packet.decode,Header.read?_octets]
  · rw [Packet.decode,Header.read?_octets]
  · exact partOf_of_cutShort short

/-- A COOKIE ECHO chunk with a pad, and a HEARTBEAT chunk. -/
def echoThenHeartbeat : Bytes := [10, 0, 0, 6, 0xAA, 0xBB, 0, 0, 4, 0, 0, 8, 0, 1, 0, 4]

theorem walk_take_echoThenHeartbeat :
    14 ≤ echoThenHeartbeat.length ∧
      CutShort 14 (walk echoThenHeartbeat) (walk (echoThenHeartbeat.take 14)) ∧
        (walk (echoThenHeartbeat.take 14)).2 = .truncated 8 8 6 := by
  have whole : walk echoThenHeartbeat = ([⟨10,0,6,[0xAA,0xBB],0⟩,⟨4,0,8,[0,1,0,4],1⟩],.complete) := by
    simp [walk,walkFrom,echoThenHeartbeat,word16,align4]
  obtain ⟨short,-⟩ := walk_take echoThenHeartbeat 14 (by decide)
  refine ⟨by decide,short,short.status.ends _ ?_⟩
  rw [whole]
  exact .truncated 1 (by decide) (by decide) (by decide)

end Area

end Sctp
