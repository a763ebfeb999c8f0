import Sctp.Chunk.Area
import Mathlib.Algebra.BigOperators.Fin

/-! The chunks of an area lie one behind the other: each starts where the length and pad of the one
before end, shows the octets that stand there, and only the last may reach past the end. What is left
behind the last chunk decides the status alone (`Ends.unique`), and no octet is lost or counted twice.
The main statement is `walk_tiles`. -/
namespace Sctp
open scoped BigOperators

def slice (octets : Bytes) (start stop : Nat) : Bytes := (octets.take stop).drop start

/-- Where a record starts when each takes its size and the first one starts at 0. -/
def offset (sizes : List Nat) (i : Nat) : Nat := (sizes.take i).sum

theorem offset_zero (sizes : List Nat) : offset sizes 0 = 0 := rfl

theorem offset_cons (size : Nat) (sizes : List Nat) (i : Nat) :
    offset (size :: sizes) (i + 1) = size + offset sizes i := by
  simp only [offset,List.take_succ_cons,List.sum_cons]

theorem offset_succ (sizes : List Nat) (i : Nat) (inside : i < sizes.length) :
    offset sizes (i + 1) = offset sizes i + sizes[i] := by
  induction sizes generalizing i with
  | nil => cases inside
  | cons size sizes ih =>
    cases i with
    | zero => simp only [offset_cons,offset_zero,List.getElem_cons_zero,Nat.add_zero,Nat.zero_add]
    | succ i =>
      rw [offset_cons,offset_cons,ih i (by simpa using inside),List.getElem_cons_succ,Nat.add_assoc]

theorem sum_covered {Record : Type} (size : Record → Nat) (records : List Record) (total : Nat) :
    ∑ i : Fin records.length, min (size records[i]) (total - offset (records.map size) i) =
      min (offset (records.map size) records.length) total := by
  induction records generalizing total with
  | nil => simp [offset]
  | cons record records ih =>
    have later : ∀ i : Fin records.length,
        min (size (record :: records)[i.succ]) (total - offset ((record :: records).map size) i.succ) =
          min (size records[i]) ((total - size record) - offset (records.map size) i) := by
      intro i
      rw [List.map_cons,Fin.val_succ,offset_cons,Nat.sub_sub]
      rfl
    change ∑ i : Fin (records.length + 1), _ = _
    rw [Fin.sum_univ_succ]
    simp only [later]
    rw [ih (total - size record)]
    simp only [List.map_cons,List.length_cons,offset_cons,Fin.val_zero,offset_zero,Fin.getElem_fin,
      List.getElem_cons_zero]
    omega

theorem slice_drop (octets : Bytes) (front start stop : Nat) :
    slice (octets.drop front) start stop = slice octets (front + start) (front + stop) := by
  simp only [slice,List.take_drop,List.drop_drop]

theorem slice_append (front octets : Bytes) (start stop : Nat) :
    slice (front ++ octets) (front.length + start) (front.length + stop) = slice octets start stop := by
  rw [← slice_drop,List.drop_left]

theorem take_slice (octets : Bytes) (start : Nat) {size more : Nat} (within : size ≤ more) :
    (slice octets start (start + more)).take size = slice octets start (start + size) := by
  simp only [slice,← List.take_drop,List.take_take,Nat.min_eq_left within]

theorem drop_slice (octets : Bytes) (start stop front : Nat) :
    (slice octets start stop).drop front = slice octets (start + front) stop := by
  rw [slice,List.drop_drop,slice]

theorem slice_slice {octets : Bytes} {start stop front back : Nat} (within : start + back ≤ stop) :
    slice (slice octets start stop) front back = slice octets (start + front) (start + back) := by
  simp only [slice,List.take_drop,List.drop_drop,List.take_take]
  rw [Nat.min_eq_left within]

theorem slice_whole (octets : Bytes) : slice octets 0 octets.length = octets := by
  rw [slice,List.take_length,List.drop_zero]

theorem slice_min (octets : Bytes) (start stop : Nat) :
    slice octets start (min stop octets.length) = slice octets start stop := by
  rw [slice,← List.take_eq_take_min,slice]

theorem length_slice (octets : Bytes) (start stop : Nat) :
    (slice octets start stop).length = min stop octets.length - start := by
  simp only [slice,List.length_drop,List.length_take]

theorem length_lt_of_headless {octets : Bytes}
    (headless : ∀ a b c d rest, octets = a :: b :: c :: d :: rest → False) : octets.length < 4 := by
  match octets, headless with
  | [], _ | [_], _ | [_,_], _ | [_,_,_], _ => simp
  | a :: b :: c :: d :: rest, headless => exact (headless a b c d rest rfl).elim

theorem drop_head (a b c d : UInt8) (rest : Bytes) {size : Nat} (covers : 4 ≤ size) :
    (a :: b :: c :: d :: rest).drop size = rest.drop (size - 4) := by
  obtain ⟨more,rfl⟩ := Nat.exists_eq_add_of_le covers
  rw [Nat.add_sub_cancel_left,Nat.add_comm]
  rfl

def AreaStatus.shift (distance : Nat) : AreaStatus → AreaStatus
  | .complete => .complete
  | .trailing place length => .trailing (distance + place) length
  | .badLength place declared skipped => .badLength (distance + place) declared skipped
  | .truncated place declared available => .truncated (distance + place) declared available

theorem AreaStatus.shift_zero (status : AreaStatus) : status.shift 0 = status := by
  cases status <;> simp only [shift,Nat.zero_add]

theorem AreaStatus.shift_shift (status : AreaStatus) (near far : Nat) :
    (status.shift near).shift far = status.shift (far + near) := by
  cases status <;> simp only [shift,Nat.add_assoc]

def RawChunk.head (raw : RawChunk) : Bytes := raw.lead :: raw.flags :: octets16 raw.declared

namespace Area

def chunkOffset (chunks : List RawChunk) (i : Nat) : Nat := offset (chunks.map RawChunk.wireLength) i

/-- The chunk shows what stands at the offset: its head, and a body that goes as far as its length
and the area. -/
structure ReadAt (area : Bytes) (place : Nat) (chunk : RawChunk) : Prop where
  aligned : place % 4 = 0
  inside : place + 4 ≤ area.length
  covers : 4 ≤ chunk.length
  head : slice area place (place + 4) = chunk.head
  body : slice area (place + 4) (min (place + chunk.length) area.length) = chunk.body

/-- The steps of a walk from an offset and an index on: one for each way it can end, and one for a chunk
that the area holds whole. -/
inductive Walked : Nat → Nat → Bytes → List RawChunk → AreaStatus → Prop
  | empty (start index : Nat) : Walked start index [] [] .complete
  | trailing (start index : Nat) (area : Bytes) (some_left : 0 < area.length) (few : area.length < 4) :
    Walked start index area [] (.trailing start area.length)
  | badLength (start index : Nat) (area : Bytes) (declared : UInt16) (enough : 4 ≤ area.length)
    (announced : slice area 2 4 = octets16 declared) (short : declared.toNat < 4) :
    Walked start index area [] (.badLength start declared area.length)
  | truncated (start : Nat) (area : Bytes) (chunk : RawChunk) (read : ReadAt area 0 chunk)
    (cut : area.length < chunk.length) :
    Walked start chunk.index area [chunk] (.truncated start chunk.declared area.length)
  | chunk (start : Nat) (area : Bytes) (chunk : RawChunk) (later : List RawChunk) (status : AreaStatus)
    (read : ReadAt area 0 chunk) (whole : chunk.length ≤ area.length)
    (rest : Walked (start + chunk.wireLength) (chunk.index + 1) (area.drop chunk.wireLength) later status) :
    Walked start chunk.index area (chunk :: later) status

theorem readAt_first (lead flags l₀ l₁ : UInt8) (rest : Bytes) (index : Nat)
    (covers : 4 ≤ (word16 l₀ l₁).toNat) :
    ReadAt (lead :: flags :: l₀ :: l₁ :: rest) 0
      ⟨lead,flags,word16 l₀ l₁,rest.take ((word16 l₀ l₁).toNat - 4),index⟩ where
  aligned := rfl
  inside := by simp only [List.length_cons]; omega
  covers := covers
  head := by
    simp only [slice,RawChunk.head,octets16_word16,Nat.zero_add,List.take_succ_cons,List.take_zero,
      List.drop_zero]
  body := by
    obtain ⟨more,same⟩ := Nat.exists_eq_add_of_le covers
    simp only [slice,RawChunk.length,same,Nat.zero_add,Nat.add_sub_cancel_left,List.length_cons]
    rw [show min (4 + more) (rest.length + 1 + 1 + 1 + 1) = min more rest.length + 1 + 1 + 1 + 1 by omega]
    simp only [List.take_succ_cons,List.drop_succ_cons,List.drop_zero]
    rw [← List.take_eq_take_min]

theorem walked (start index : Nat) (area : Bytes) :
    Walked start index area (walkFrom start index area).1 (walkFrom start index area).2 := by
  fun_induction walkFrom start index area with
  | case1 start index lead flags l₀ l₁ rest declared short =>
    exact .badLength start index (lead :: flags :: l₀ :: l₁ :: rest) declared
      (by simp only [List.length_cons]; omega) (octets16_word16 l₀ l₁).symm short
  | case2 start index lead flags l₀ l₁ rest declared body covers cut =>
    have read := readAt_first lead flags l₀ l₁ rest index (Nat.not_lt.mp covers)
    refine .truncated start _ ⟨lead,flags,declared,body,index⟩ read ?_
    simp only [body,List.length_take] at cut
    simp only [RawChunk.length,List.length_cons]
    omega
  | case3 start index lead flags l₀ l₁ rest declared body covers whole later ih =>
    have read := readAt_first lead flags l₀ l₁ rest index (Nat.not_lt.mp covers)
    have behind := drop_head lead flags l₀ l₁ rest (Nat.le_trans (Nat.not_lt.mp covers) (le_align4 declared.toNat))
    refine .chunk start _ ⟨lead,flags,declared,body,index⟩ later.1 later.2 read ?_ ?_
    · simp only [body,List.length_take] at whole
      simp only [RawChunk.length,List.length_cons]
      omega
    · simpa only [RawChunk.wireLength,RawChunk.length,behind] using ih
  | case4 start index => exact .empty start index
  | case5 start index rest nonempty few =>
    refine .trailing start index rest (List.length_pos_of_ne_nil few) ?_
    match rest, nonempty with
    | [], _ | [_], _ | [_,_], _ | [_,_,_], _ => simp only [List.length_cons,List.length_nil]; omega
    | lead :: flags :: l₀ :: l₁ :: rest, nonempty => exact absurd rfl (nonempty lead flags l₀ l₁ rest)

theorem chunkOffset_zero (chunks : List RawChunk) : chunkOffset chunks 0 = 0 := rfl

theorem chunkOffset_cons (chunk : RawChunk) (chunks : List RawChunk) (i : Nat) :
    chunkOffset (chunk :: chunks) (i + 1) = chunk.wireLength + chunkOffset chunks i :=
  offset_cons _ _ _

theorem chunkOffset_mod (chunks : List RawChunk) (i : Nat) : chunkOffset chunks i % 4 = 0 := by
  induction chunks generalizing i with
  | nil => simp [chunkOffset,offset]
  | cons chunk chunks ih =>
    cases i with
    | zero => rfl
    | succ i =>
      have aligned : chunk.wireLength % 4 = 0 := align4_mod _
      rw [chunkOffset_cons,Nat.add_mod,aligned,ih i]

theorem ReadAt.of_drop {area : Bytes} {front place : Nat} {chunk : RawChunk} (aligned : front % 4 = 0)
    (read : ReadAt (area.drop front) place chunk) : ReadAt area (front + place) chunk := by
  have inside := read.inside
  rw [List.length_drop] at inside
  refine ⟨?_,?_,read.covers,?_,?_⟩
  · rw [Nat.add_mod,aligned,read.aligned]
  · omega
  · rw [← read.head,slice_drop,Nat.add_assoc]
  · rw [← read.body,slice_drop,List.length_drop,Nat.add_assoc,Nat.add_assoc]
    rw [show front + min (place + chunk.length) (area.length - front) =
      min (front + (place + chunk.length)) area.length by omega]

theorem Walked.readAt {start index : Nat} {area : Bytes} {chunks : List RawChunk} {status : AreaStatus}
    (walk : Walked start index area chunks status) (i : Nat) (inside : i < chunks.length) :
    chunks[i].index = index + i ∧ ReadAt area (chunkOffset chunks i) chunks[i] := by
  induction walk generalizing i with
  | empty | trailing | badLength => cases inside
  | truncated start area chunk read cut =>
    obtain rfl : i = 0 := by simpa using inside
    exact ⟨rfl,read⟩
  | chunk start area chunk later status read whole rest ih =>
    cases i with
    | zero => exact ⟨rfl,read⟩
    | succ i =>
      obtain ⟨counted,found⟩ := ih i (by simpa using inside)
      refine ⟨?_,?_⟩
      · rw [List.getElem_cons_succ,counted,Nat.add_assoc,Nat.add_comm 1 i]
      · rw [chunkOffset_cons,List.getElem_cons_succ]
        exact found.of_drop (align4_mod _)

/-- The last chunk, at the place, declares more octets than the area has from there on. -/
def Overruns (area : Bytes) (chunks : List RawChunk) (place : Nat) (last : RawChunk) : Prop :=
  ∃ front, chunks = front ++ [last] ∧ place = chunkOffset chunks front.length ∧
    area.length < place + last.length

/-- What a status says of an area and the chunks in it. -/
def Ends (area : Bytes) (chunks : List RawChunk) : AreaStatus → Prop
  | .complete =>
    area.length ≤ chunkOffset chunks chunks.length ∧ ∀ place last, ¬ Overruns area chunks place last
  | .trailing place length =>
    place = chunkOffset chunks chunks.length ∧ length = area.length - place ∧ 0 < length ∧ length < 4
  | .badLength place declared skipped =>
    place = chunkOffset chunks chunks.length ∧ skipped = area.length - place ∧ 4 ≤ skipped ∧
      slice area (place + 2) (place + 4) = octets16 declared ∧ declared.toNat < 4
  | .truncated place declared available =>
    ∃ last, Overruns area chunks place last ∧ declared = last.declared ∧ available = area.length - place

theorem overruns_cons {area : Bytes} {chunk : RawChunk} {later : List RawChunk} {place : Nat}
    {last : RawChunk} (overruns : Overruns (area.drop chunk.wireLength) later place last) :
    Overruns area (chunk :: later) (chunk.wireLength + place) last := by
  obtain ⟨front,rfl,rfl,cut⟩ := overruns
  refine ⟨chunk :: front,rfl,?_,?_⟩
  · rw [List.length_cons,chunkOffset_cons]
  · rw [List.length_drop] at cut
    omega

theorem not_overruns_cons {area : Bytes} {chunk : RawChunk} {later : List RawChunk}
    (whole : chunk.length ≤ area.length) (covers : ∀ other ∈ later, 4 ≤ other.length)
    (none : ∀ place last, ¬ Overruns (area.drop chunk.wireLength) later place last) (place : Nat)
    (last : RawChunk) : ¬ Overruns area (chunk :: later) place last := by
  rintro ⟨front,same,rfl,cut⟩
  cases front with
  | nil =>
    obtain ⟨rfl,rfl⟩ := List.cons.inj same
    rw [List.length_nil,chunkOffset_zero] at cut
    omega
  | cons first front =>
    obtain ⟨rfl,rfl⟩ := List.cons.inj same
    have positive := covers last (List.mem_append_right front (List.mem_singleton_self last))
    refine none _ last ⟨front,rfl,rfl,?_⟩
    rw [List.length_cons,chunkOffset_cons] at cut
    rw [List.length_drop]
    omega

theorem Ends.cons {area : Bytes} {chunk : RawChunk} {later : List RawChunk} {status : AreaStatus}
    (ends : Ends (area.drop chunk.wireLength) later status) (whole : chunk.length ≤ area.length)
    (covers : ∀ other ∈ later, 4 ≤ other.length) :
    Ends area (chunk :: later) (status.shift chunk.wireLength) := by
  cases status with
  | complete =>
    refine ⟨?_,not_overruns_cons whole covers ends.2⟩
    have reached := ends.1
    rw [List.length_drop] at reached
    rw [List.length_cons,chunkOffset_cons]
    omega
  | trailing place length =>
    obtain ⟨rfl,left,some_left,few⟩ := ends
    rw [List.length_drop] at left
    exact ⟨(chunkOffset_cons _ _ _).symm,by omega,some_left,few⟩
  | badLength place declared skipped =>
    obtain ⟨rfl,left,enough,announced,short⟩ := ends
    rw [List.length_drop] at left
    refine ⟨(chunkOffset_cons _ _ _).symm,by omega,enough,?_,short⟩
    rw [← announced,slice_drop,Nat.add_assoc,Nat.add_assoc]
  | truncated place declared available =>
    obtain ⟨last,overruns,announced,left⟩ := ends
    rw [List.length_drop] at left
    exact ⟨last,overruns_cons overruns,announced,by omega⟩

theorem Walked.ends {start index : Nat} {area : Bytes} {chunks : List RawChunk} {status : AreaStatus}
    (walk : Walked start index area chunks status) :
    ∃ own, status = own.shift start ∧ Ends area chunks own := by
  induction walk with
  | empty start index =>
    refine ⟨.complete,rfl,Nat.le_refl _,?_⟩
    rintro place last ⟨front,same,-⟩
    exact absurd same (by simp)
  | trailing start index area some_left few =>
    exact ⟨.trailing 0 area.length,rfl,rfl,rfl,some_left,few⟩
  | badLength start index area declared enough announced short =>
    exact ⟨.badLength 0 declared area.length,rfl,rfl,rfl,enough,announced,short⟩
  | truncated start area chunk read cut =>
    exact ⟨.truncated 0 chunk.declared area.length,rfl,chunk,⟨[],rfl,rfl,by rwa [Nat.zero_add]⟩,rfl,rfl⟩
  | chunk start area chunk later status read whole rest ih =>
    obtain ⟨own,rfl,ends⟩ := ih
    refine ⟨own.shift chunk.wireLength,(AreaStatus.shift_shift _ _ _).symm,ends.cons whole ?_⟩
    intro other member
    obtain ⟨i,inside,rfl⟩ := List.mem_iff_getElem.mp member
    exact (rest.readAt i inside).2.covers

theorem Overruns.unique {area : Bytes} {chunks : List RawChunk} {place place' : Nat}
    {last last' : RawChunk} (overruns : Overruns area chunks place last)
    (overruns' : Overruns area chunks place' last') : place = place' ∧ last = last' := by
  obtain ⟨front,rfl,rfl,-⟩ := overruns
  obtain ⟨front',same,rfl,-⟩ := overruns'
  obtain ⟨fronts,lasts⟩ := List.append_inj' same rfl
  obtain ⟨rfl,-⟩ := List.cons.inj lasts
  exact ⟨by rw [fronts],rfl⟩

theorem Overruns.reaches {area : Bytes} {chunks : List RawChunk} {place : Nat} {last : RawChunk}
    (overruns : Overruns area chunks place last) : area.length < chunkOffset chunks chunks.length := by
  obtain ⟨front,rfl,rfl,cut⟩ := overruns
  have next := offset_succ ((front ++ [last]).map RawChunk.wireLength) front.length (by simp)
  have padded : last.length ≤ last.wireLength := le_align4 _
  simp only [List.map_append,List.map_cons,List.map_nil,List.getElem_append_right,List.length_map,
    Nat.le_refl,Nat.sub_self,List.getElem_cons_zero] at next
  rw [List.length_append,List.length_singleton,chunkOffset,List.map_append,List.map_cons,List.map_nil,next]
  rw [chunkOffset,List.map_append,List.map_cons,List.map_nil] at cut
  omega

theorem octets16_injective {first second : UInt16} (same : octets16 first = octets16 second) :
    first = second := by
  obtain ⟨high,low⟩ := List.cons.inj same
  rw [← word16_octets16 first,high,(List.cons.inj low).1,word16_octets16]

theorem Ends.unique {area : Bytes} {chunks : List RawChunk} {status other : AreaStatus}
    (ends : Ends area chunks status) (ends' : Ends area chunks other) : status = other := by
  cases status with
  | complete =>
    obtain ⟨reached,none⟩ := ends
    cases other with
    | complete => rfl
    | trailing place length => obtain ⟨rfl,rfl,some_left,-⟩ := ends'; omega
    | badLength place declared skipped => obtain ⟨rfl,rfl,enough,-⟩ := ends'; omega
    | truncated place declared available =>
      obtain ⟨last,overruns,-⟩ := ends'
      exact absurd overruns (none place last)
  | trailing place length =>
    obtain ⟨rfl,rfl,some_left,few⟩ := ends
    cases other with
    | complete => have reached := ends'.1; omega
    | trailing place length => obtain ⟨rfl,rfl,-⟩ := ends'; rfl
    | badLength place declared skipped => obtain ⟨rfl,rfl,enough,-⟩ := ends'; omega
    | truncated place declared available =>
      obtain ⟨last,overruns,-⟩ := ends'
      have reached := overruns.reaches
      omega
  | badLength place declared skipped =>
    obtain ⟨rfl,rfl,enough,announced,short⟩ := ends
    cases other with
    | complete => have reached := ends'.1; omega
    | trailing place length => obtain ⟨rfl,rfl,-,few⟩ := ends'; omega
    | badLength place declared' skipped =>
      obtain ⟨rfl,rfl,-,announced',-⟩ := ends'
      rw [octets16_injective (announced.symm.trans announced')]
    | truncated place declared available =>
      obtain ⟨last,overruns,-⟩ := ends'
      have reached := overruns.reaches
      omega
  | truncated place declared available =>
    obtain ⟨last,overruns,rfl,rfl⟩ := ends
    have reached := overruns.reaches
    cases other with
    | complete => exact absurd overruns (ends'.2 place last)
    | trailing place length => obtain ⟨rfl,rfl,some_left,-⟩ := ends'; omega
    | badLength place declared skipped => obtain ⟨rfl,rfl,enough,-⟩ := ends'; omega
    | truncated place' declared available =>
      obtain ⟨last',overruns',rfl,rfl⟩ := ends'
      obtain ⟨rfl,rfl⟩ := overruns.unique overruns'
      rfl

theorem Ends.covered {area : Bytes} {chunks : List RawChunk} {status : AreaStatus}
    (ends : Ends area chunks status) :
    ∑ i : Fin chunks.length, min chunks[i].wireLength (area.length - chunkOffset chunks i) +
      status.uncovered = area.length := by
  rw [show ∑ i : Fin chunks.length, min chunks[i].wireLength (area.length - chunkOffset chunks i) =
    min (chunkOffset chunks chunks.length) area.length from sum_covered RawChunk.wireLength chunks area.length]
  cases status with
  | complete =>
    have reached := ends.1
    simp only [AreaStatus.uncovered]
    omega
  | trailing place length =>
    obtain ⟨rfl,rfl,some_left,-⟩ := ends
    simp only [AreaStatus.uncovered]
    omega
  | badLength place declared skipped =>
    obtain ⟨rfl,rfl,enough,-⟩ := ends
    simp only [AreaStatus.uncovered]
    omega
  | truncated place declared available =>
    obtain ⟨last,overruns,-⟩ := ends
    have reached := overruns.reaches
    simp only [AreaStatus.uncovered]
    omega

/-- The number of the call that ends a walk: a chunk that is cut ends it with the call that yields it,
and otherwise it takes one more call to find that there is nothing left. -/
def endingCall (chunks : List RawChunk) : AreaStatus → Nat
  | .truncated _ _ _ => chunks.length
  | _ => chunks.length + 1

theorem endingCall_cons (chunk : RawChunk) (chunks : List RawChunk) (status : AreaStatus) :
    endingCall (chunk :: chunks) status = endingCall chunks status + 1 := by
  cases status <;> rfl

namespace Cursor

def after : Nat → Cursor → Cursor
  | 0, cursor => cursor
  | calls + 1, cursor => after calls cursor.next.2

theorem next_of_ended {cursor : Cursor} (ended : cursor.ended = true) : cursor.next = (none,cursor) := by
  simp only [next,ended,if_true]

theorem after_of_ended {cursor : Cursor} (ended : cursor.ended = true) (calls : Nat) :
    after calls cursor = cursor := by
  induction calls with
  | zero => rfl
  | succ calls ih => rw [after,next_of_ended ended,ih]

/-- What one call makes of a cursor that has not ended: it yields a chunk and goes on, yields a cut
chunk and ends, or yields nothing and ends. -/
inductive Call (cursor : Cursor) : Prop
  | chunk (chunk : RawChunk) (yields : cursor.next.1 = some chunk) (running : cursor.next.2.ended = false)
    (fresh : cursor.next.2.status = .complete)
    (walk : cursor.toWalk = (chunk :: cursor.next.2.toWalk.1,cursor.next.2.toWalk.2))
  | cut (chunk : RawChunk) (place : Nat) (declared : UInt16) (available : Nat)
    (yields : cursor.next.1 = some chunk) (ended : cursor.next.2.ended = true)
    (status : cursor.next.2.status = .truncated place declared available)
    (walk : cursor.toWalk = ([chunk],.truncated place declared available))
  | nothing (yields : cursor.next.1 = none) (ended : cursor.next.2.ended = true)
    (walk : cursor.toWalk = ([],cursor.next.2.status))
    (uncut : endingCall [] cursor.next.2.status = 1)

theorem call {cursor : Cursor} (running : cursor.ended = false) (fresh : cursor.status = .complete) :
    Call cursor := by
  obtain ⟨rest,place,index,status,ended⟩ := cursor
  obtain rfl : ended = false := running
  obtain rfl : status = .complete := fresh
  match rest with
  | lead :: flags :: l₀ :: l₁ :: rest =>
    by_cases short : (word16 l₀ l₁).toNat < 4
    · apply Call.nothing <;> simp [toWalk,next,finish,walkFrom,endingCall,short]
    · by_cases cut : (rest.take ((word16 l₀ l₁).toNat - 4)).length < (word16 l₀ l₁).toNat - 4
      · refine .cut ⟨lead,flags,word16 l₀ l₁,rest.take ((word16 l₀ l₁).toNat - 4),index⟩ place
          (word16 l₀ l₁) (rest.length + 4) ?_ ?_ ?_ ?_
        all_goals simp [toWalk,next,finish,walkFrom,short,cut,-List.length_take]
      · refine .chunk ⟨lead,flags,word16 l₀ l₁,rest.take ((word16 l₀ l₁).toNat - 4),index⟩ ?_ ?_ ?_ ?_
        all_goals simp [toWalk,next,walkFrom,short,cut,-List.length_take]
  | [] | [_] | [_,_] | [_,_,_] => apply Call.nothing <;> simp [toWalk,next,finish,walkFrom,endingCall]

/-- A cursor on its way yields the chunks of its walk in turn, and reads `complete` up to the ending call. -/
theorem next_after {cursor : Cursor} (running : cursor.ended = false) (fresh : cursor.status = .complete)
    (calls : Nat) :
    (after calls cursor).next.1 = cursor.toWalk.1[calls]? ∧
      (after calls cursor).status =
        if calls < endingCall cursor.toWalk.1 cursor.toWalk.2 then .complete else cursor.toWalk.2 := by
  -- On the calls, for all cursors on their way: a call that yields a chunk leaves another one of these.
  induction calls generalizing cursor with
  | zero =>
    rw [after]
    cases call running fresh with
    | chunk chunk yields _ _ walk =>
      rw [walk,yields,fresh,endingCall_cons,if_pos (Nat.succ_pos _)]
      exact ⟨rfl,rfl⟩
    | cut chunk place declared available yields _ _ walk =>
      rw [walk,yields,fresh]
      exact ⟨rfl,rfl⟩
    | nothing yields _ walk uncut =>
      rw [walk,yields,fresh,uncut]
      exact ⟨rfl,rfl⟩
  | succ calls ih =>
    rw [after]
    cases call running fresh with
    | chunk chunk _ running fresh walk =>
      obtain ⟨yields,status⟩ := ih running fresh
      rw [yields,status,walk,endingCall_cons]
      exact ⟨rfl,if_congr (Nat.succ_lt_succ_iff).symm rfl rfl⟩
    | cut chunk place declared available _ ended status walk =>
      rw [after_of_ended ended,next_of_ended ended,status,walk]
      exact ⟨rfl,(if_neg (by simp [endingCall])).symm⟩
    | nothing _ ended walk uncut =>
      rw [after_of_ended ended,next_of_ended ended,walk,uncut]
      exact ⟨rfl,(if_neg (by omega)).symm⟩

end Cursor

/-- The chunks and the status of a walk fit the area: the chunks lie one behind the other, all but the
last are there with their pads, the status says what is behind them, and every octet counts once. -/
structure Tiled (area : Bytes) (chunks : List RawChunk) (status : AreaStatus) : Prop where
  aligned : ∀ i, chunkOffset chunks i % 4 = 0
  read : ∀ i (inside : i < chunks.length), chunks[i].index = i ∧ ReadAt area (chunkOffset chunks i) chunks[i]
  whole : ∀ i, i + 1 < chunks.length → chunkOffset chunks (i + 1) ≤ area.length
  ends : ∀ reported, status = reported ↔ Ends area chunks reported
  covered : ∑ i : Fin chunks.length, min chunks[i].wireLength (area.length - chunkOffset chunks i) +
    status.uncovered = area.length

theorem walk_tiles (area : Bytes) :
    Tiled area (walk area).1 (walk area).2 ∧
      ∀ calls, (Cursor.after calls (.start area)).next.1 = (walk area).1[calls]? ∧
        (Cursor.after calls (.start area)).status =
          if calls < endingCall (walk area).1 (walk area).2 then .complete else (walk area).2 := by
  have steps : Walked 0 0 area (walk area).1 (walk area).2 := walked 0 0 area
  have read : ∀ i (inside : i < (walk area).1.length), (walk area).1[i].index = i ∧
      ReadAt area (chunkOffset (walk area).1 i) (walk area).1[i] := by
    intro i inside
    simpa only [Nat.zero_add] using steps.readAt i inside
  have ends : Ends area (walk area).1 (walk area).2 := by
    obtain ⟨status,same,ends⟩ := steps.ends
    rw [same,AreaStatus.shift_zero]
    exact ends
  refine ⟨⟨chunkOffset_mod _,read,?_,?_,ends.covered⟩,?_⟩
  · intro i inside
    exact Nat.le_trans (Nat.le_add_right _ 4) (read (i + 1) inside).2.inside
  · intro reported
    constructor
    · rintro rfl
      exact ends
    · exact ends.unique
  · intro calls
    exact Cursor.next_after rfl rfl calls

end Area

end Sctp
