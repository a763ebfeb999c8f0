import Sctp.Param
import Sctp.Proofs.Tiling

/-! The records of a parameter area lie one behind the other from its start on, and each shows the octets that
stand at its place. Only the last can be malformed, cut off or without its pad, and why it is the last tells how
many octets a cursor leaves (`Final`). The main statement is `records_tile`. -/
namespace Sctp.Param

def paramOffset (params : List Param) (i : Nat) : Nat := offset (params.map wireLength) i

theorem paramOffset_zero (params : List Param) : paramOffset params 0 = 0 := rfl

theorem paramOffset_cons (param : Param) (params : List Param) (i : Nat) :
    paramOffset (param :: params) (i + 1) = param.wireLength + paramOffset params i :=
  offset_cons _ _ _

theorem paramOffset_succ (params : List Param) (i : Nat) (inside : i < params.length) :
    paramOffset params (i + 1) = paramOffset params i + params[i].wireLength := by
  have step := offset_succ (params.map wireLength) i (by simpa using inside)
  simpa [paramOffset] using step

/-- The record shows what stands at the place: its two words, and a value that goes as far as its length and
the area. A length that does not cover these words leaves no value. -/
structure ReadAt (area : Bytes) (place : Nat) (param : Param) : Prop where
  aligned : place % 4 = 0
  inside : place + 4 ≤ area.length
  code : slice area place (place + 2) = octets16 param.code
  declared : slice area (place + 2) (place + 4) = octets16 param.declared
  value : slice area (place + 4) (min (place + param.length) area.length) = param.value
  empty : param.length < 4 → param.value = []

inductive Walked : Bytes → List Param → Prop
  | few (area : Bytes) (few : area.length < 4) : Walked area []
  | malformed (area : Bytes) (param : Param) (read : ReadAt area 0 param) (short : param.length < 4) :
    Walked area [param]
  | record (area : Bytes) (param : Param) (later : List Param) (read : ReadAt area 0 param)
    (covers : 4 ≤ param.length) (rest : Walked (area.drop param.wireLength) later) : Walked area (param :: later)

theorem readAt_first (c₀ c₁ l₀ l₁ : UInt8) (rest : Bytes) :
    ReadAt (c₀ :: c₁ :: l₀ :: l₁ :: rest) 0
      ⟨word16 c₀ c₁,word16 l₀ l₁,rest.take ((word16 l₀ l₁).toNat - 4)⟩ where
  aligned := rfl
  inside := by simp
  code := by simp [slice,octets16_word16]
  declared := by simp [slice,octets16_word16]
  value := by
    simp only [slice,length,List.drop_take,Nat.zero_add,List.drop_succ_cons,List.drop_zero,List.length_cons]
    rw [List.take_eq_take_iff]
    omega
  empty := by
    intro short
    simp only [length] at short
    simp [show (word16 l₀ l₁).toNat - 4 = 0 by omega]

theorem walked (area : Bytes) : Walked area (walk area) := by
  fun_induction walk area with
  | case1 c₀ c₁ l₀ l₁ rest short =>
    have read := readAt_first c₀ c₁ l₀ l₁ rest
    rw [show (word16 l₀ l₁).toNat - 4 = 0 by omega,List.take_zero] at read
    exact .malformed _ _ read short
  | case2 c₀ c₁ l₀ l₁ rest covers ih =>
    refine .record _ _ _ (readAt_first c₀ c₁ l₀ l₁ rest) (Nat.not_lt.mp covers) ?_
    rw [wireLength,length,drop_head _ _ _ _ _ (Nat.le_trans (Nat.not_lt.mp covers) (le_align4 _))]
    exact ih
  | case3 area headless => exact .few area (length_lt_of_headless headless)

theorem ReadAt.of_drop {area : Bytes} {front place : Nat} {param : Param} (aligned : front % 4 = 0)
    (read : ReadAt (area.drop front) place param) : ReadAt area (front + place) param := by
  have inside := read.inside
  have value := read.value
  rw [List.length_drop] at inside value
  refine ⟨?_,?_,?_,?_,?_,read.empty⟩
  · rw [Nat.add_mod,aligned,read.aligned]
  · omega
  · rw [← read.code,slice_drop,Nat.add_assoc]
  · rw [← read.declared,slice_drop,Nat.add_assoc,Nat.add_assoc]
  · rw [← value,slice_drop,Nat.add_assoc,Nat.add_assoc]
    rw [show front + min (place + param.length) (area.length - front) =
      min (front + (place + param.length)) area.length by omega]

/-- Why a record is the last of its area, and how many octets are left behind it. -/
inductive Final (area : Bytes) (place : Nat) (param : Param) : Nat → Prop
  | malformed (short : param.length < 4) : Final area place param (area.length - place)
  | reaches (covers : 4 ≤ param.length) (reaches : area.length ≤ place + param.length) : Final area place param 0
  | trailing (covers : 4 ≤ param.length) (inside : place + param.length < area.length)
    (few : area.length - (place + param.wireLength) < 4) :
    Final area place param (area.length - (place + param.wireLength))

section Places
variable {area : Bytes} {params : List Param} (walk : Walked area params) (i : Nat) (inside : i < params.length)
include walk

theorem Walked.readAt : ReadAt area (paramOffset params i) params[i] := by
  induction walk generalizing i with
  | few => cases inside
  | malformed area param read short =>
    obtain rfl : i = 0 := by simpa using inside
    exact read
  | record area param later read covers rest ih =>
    cases i with
    | zero => exact read
    | succ i =>
      rw [paramOffset_cons]
      exact (ih i (by simpa using inside)).of_drop (align4_mod _)

theorem Walked.covers (more : i + 1 < params.length) : 4 ≤ params[i].length := by
  induction walk generalizing i with
  | few => cases inside
  | malformed area param read short => simp at more
  | record area param later read covers rest ih =>
    cases i with
    | zero => exact covers
    | succ i => exact ih i (by simpa using inside) (by simpa using more)

theorem Walked.ends (last : i + 1 = params.length) :
    params[i].length < 4 ∨ area.length - (paramOffset params i + params[i].wireLength) < 4 := by
  induction walk generalizing i with
  | few => cases inside
  | malformed area param read short =>
    obtain rfl : i = 0 := by simpa using last
    exact .inl short
  | record area param later read covers rest ih =>
    cases i with
    | zero =>
      right
      cases rest with
      | few _ few => simpa [paramOffset_zero,List.length_drop] using few
      | malformed | record => simp at last
    | succ i =>
      have behind := ih i (by simpa using inside) (by simpa using last)
      rw [List.length_drop] at behind
      rw [paramOffset_cons,List.getElem_cons_succ]
      omega

theorem Walked.final_iff : i + 1 = params.length ↔ ∃ left, Final area (paramOffset params i) params[i] left := by
  have padded : params[i].length ≤ params[i].wireLength := le_align4 _
  constructor
  · intro last
    rcases walk.ends i inside last with short | few
    · exact ⟨_,.malformed short⟩
    by_cases covers : 4 ≤ params[i].length
    · by_cases held : paramOffset params i + params[i].length < area.length
      · exact ⟨_,.trailing covers held few⟩
      · exact ⟨_,.reaches covers (by omega)⟩
    · exact ⟨_,.malformed (by omega)⟩
  · rintro ⟨left,final⟩
    by_contra not_last
    have more : i + 1 < params.length := by omega
    have covers := walk.covers i inside more
    have next := (walk.readAt (i + 1) more).inside
    rw [paramOffset_succ params i inside] at next
    cases final <;> omega

end Places

/-- The octets that a record accounts for. A malformed one does not say where it ends, and accounts for none. -/
def claimed (param : Param) : Nat := if param.length < 4 then 0 else param.wireLength

namespace Cursor

def after : Nat → Cursor → Cursor
  | 0, cursor => cursor
  | calls + 1, cursor => after calls cursor.next.2

/-- The cursor after the walk has ended with these octets left. -/
def stopped (area : Bytes) : Cursor := { start area with ended := true }

theorem after_stopped (area : Bytes) (calls : Nat) : after calls (stopped area) = stopped area := by
  induction calls with
  | zero => rfl
  | succ calls ih =>
    have stays : (stopped area).next.2 = stopped area := by simp [stopped,next]
    rw [after,stays,ih]

theorem next_stopped (area : Bytes) : (stopped area).next.1 = none := by
  simp [stopped,next]

theorem next_few {area : Bytes} (few : area.length < 4) : (start area).next = (none,stopped area) := by
  match area, few with
  | [], _ | [_], _ | [_,_], _ | [_,_,_], _ => rfl
  | _ :: _ :: _ :: _ :: _, few =>
    simp only [List.length_cons] at few
    omega

section Heads
variable {c₀ c₁ l₀ l₁ : UInt8} {rest : Bytes}

theorem next_malformed (short : (word16 l₀ l₁).toNat < 4) :
    (start (c₀ :: c₁ :: l₀ :: l₁ :: rest)).next =
      (some ⟨word16 c₀ c₁,word16 l₀ l₁,[]⟩,stopped (c₀ :: c₁ :: l₀ :: l₁ :: rest)) := by
  simp [start,stopped,next,short]

theorem next_record (covers : ¬ (word16 l₀ l₁).toNat < 4) :
    (start (c₀ :: c₁ :: l₀ :: l₁ :: rest)).next =
      (some ⟨word16 c₀ c₁,word16 l₀ l₁,rest.take ((word16 l₀ l₁).toNat - 4)⟩,
        start (rest.drop (align4 (word16 l₀ l₁).toNat - 4))) := by
  have padded := le_align4 (word16 l₀ l₁).toNat
  simp [start,next,covers]
  omega

end Heads

theorem next_after (area : Bytes) (calls : Nat) :
    (after calls (start area)).next.1 = (walk area)[calls]? ∧
      (after calls (start area)).remaining = area.length - offset ((walk area).map claimed) calls := by
  -- On the records: behind one that is not malformed the cursor starts anew with the rest of the area.
  fun_induction walk area generalizing calls with
  | case1 c₀ c₁ l₀ l₁ rest short =>
    cases calls with
    | zero =>
      rw [after,next_malformed short]
      exact ⟨rfl,rfl⟩
    | succ calls =>
      rw [after,next_malformed short,after_stopped,next_stopped]
      simp [stopped,start,offset,claimed,length,short]
  | case2 c₀ c₁ l₀ l₁ rest covers ih =>
    cases calls with
    | zero =>
      rw [after,next_record covers]
      exact ⟨rfl,rfl⟩
    | succ calls =>
      have padded := le_align4 (word16 l₀ l₁).toNat
      have size : claimed ⟨word16 c₀ c₁,word16 l₀ l₁,rest.take ((word16 l₀ l₁).toNat - 4)⟩ =
          align4 (word16 l₀ l₁).toNat := if_neg covers
      obtain ⟨yields,left⟩ := ih calls
      rw [after,next_record covers,List.getElem?_cons_succ,List.map_cons,offset_cons,size]
      refine ⟨yields,left.trans ?_⟩
      simp only [List.length_drop,List.length_cons]
      omega
  | case3 area headless =>
    have few := length_lt_of_headless headless
    cases calls with
    | zero =>
      rw [after,next_few few]
      exact ⟨rfl,rfl⟩
    | succ calls =>
      rw [after,next_few few,after_stopped,next_stopped]
      exact ⟨rfl,rfl⟩

end Cursor

/-- The records of an area lie one behind the other, and only the last can be other than whole. -/
structure Tiled (area : Bytes) (params : List Param) : Prop where
  none : params = [] ↔ area.length < 4
  read : ∀ i (inside : i < params.length), ReadAt area (paramOffset params i) params[i]
  whole : ∀ i (inside : i + 1 < params.length),
    4 ≤ params[i].length ∧ params[i].isTruncated = false ∧ paramOffset params (i + 1) < area.length
  last : ∀ i (inside : i < params.length), i + 1 = params.length ↔
    ∃ left, Final area (paramOffset params i) params[i] left

/-- What a cursor over the area does at each call: it yields the records in turn and knows what is left behind
each, and once there is no record more it stays as it is. -/
structure Follows (area : Bytes) (params : List Param) : Prop where
  yields : ∀ calls, (Cursor.after calls (.start area)).next.1 = params[calls]?
  fresh : (Cursor.start area).remaining = area.length
  left : ∀ i (inside : i < params.length), (Cursor.after (i + 1) (.start area)).remaining =
    if 4 ≤ params[i].length then area.length - min area.length (paramOffset params (i + 1))
    else area.length - paramOffset params i
  final : ∀ i (inside : i < params.length) left, Final area (paramOffset params i) params[i] left →
    (Cursor.after (i + 1) (.start area)).remaining = left
  fused : ∀ calls, (Cursor.after calls (.start area)).next.1 = Option.none → ∀ more,
    (Cursor.after (calls + more) (.start area)).next.1 = Option.none ∧
      (Cursor.after (calls + more) (.start area)).remaining = (Cursor.after calls (.start area)).remaining

theorem ReadAt.isTruncated {area : Bytes} {place : Nat} {param : Param} (read : ReadAt area place param)
    (held : place + param.length ≤ area.length) : param.isTruncated = false := by
  have size := congrArg List.length read.value
  rw [length_slice] at size
  apply decide_eq_false
  rw [valueLength]
  omega

theorem Walked.tiled {area : Bytes} {params : List Param} (walk : Walked area params) : Tiled area params where
  none := by
    cases walk with
    | few _ few => simp [few]
    | malformed _ _ read | record _ _ _ read =>
      have inside := read.inside
      simp
      omega
  read := walk.readAt
  whole i inside := by
    have padded : params[i].length ≤ params[i].wireLength := le_align4 _
    have next := (walk.readAt (i + 1) inside).inside
    have step := paramOffset_succ params i (Nat.lt_of_succ_lt inside)
    refine ⟨walk.covers i (Nat.lt_of_succ_lt inside) inside,?_,by omega⟩
    apply (walk.readAt i (Nat.lt_of_succ_lt inside)).isTruncated
    omega
  last := walk.final_iff

theorem Walked.offset_claimed {area : Bytes} {params : List Param} (walk : Walked area params) (i : Nat)
    (inside : i < params.length) : offset (params.map claimed) i = paramOffset params i := by
  induction i with
  | zero => rfl
  | succ i ih =>
    have before := Nat.lt_of_succ_lt inside
    have covers := walk.covers i before inside
    have size : claimed params[i] = params[i].wireLength := if_neg (Nat.not_lt.mpr covers)
    rw [offset_succ _ i (by simpa using before),ih before,paramOffset_succ params i before,List.getElem_map,size]

theorem Cursor.remaining_after {area : Bytes} (i : Nat) (inside : i < (walk area).length) :
    (Cursor.after (i + 1) (.start area)).remaining =
      area.length - (paramOffset (walk area) i + claimed (walk area)[i]) := by
  rw [(Cursor.next_after area (i + 1)).2,offset_succ _ i (by simpa using inside),
    (walked area).offset_claimed i inside,List.getElem_map]

theorem follows_walk (area : Bytes) : Follows area (walk area) where
  yields calls := (Cursor.next_after area calls).1
  fresh := rfl
  left i inside := by
    rw [Cursor.remaining_after i inside,paramOffset_succ _ i inside,claimed]
    split <;> split <;> omega
  final i inside left final := by
    rw [Cursor.remaining_after i inside]
    have padded : (walk area)[i].length ≤ (walk area)[i].wireLength := le_align4 _
    cases final with
    | malformed short => rw [claimed,if_pos short,Nat.add_zero]
    | reaches covers reaches =>
      rw [claimed,if_neg (Nat.not_lt.mpr covers)]
      omega
    | trailing covers => rw [claimed,if_neg (Nat.not_lt.mpr covers)]
  fused calls stopped more := by
    rw [(Cursor.next_after area calls).1,List.getElem?_eq_none_iff] at stopped
    have all : ∀ calls, (walk area).length ≤ calls →
        offset ((walk area).map claimed) calls = ((walk area).map claimed).sum := by
      intro calls beyond
      rw [offset,List.take_of_length_le (by simpa using beyond)]
    obtain ⟨yields,left⟩ := Cursor.next_after area (calls + more)
    rw [yields,left,(Cursor.next_after area calls).2,all _ stopped,all _ (by omega)]
    exact ⟨List.getElem?_eq_none (by omega),rfl⟩

theorem records_tile (area : Bytes) : Tiled area (walk area) ∧ Follows area (walk area) :=
  ⟨(walked area).tiled,follows_walk area⟩

end Sctp.Param
