import Sctp.Proofs.CutArea
import Sctp.Proofs.ParamTiling
import Sctp.Proofs.ParsedForm

/-! A parameter area of which only the first octets are there lists the records whose heads are within these
octets, and only the last of them can have lost something of its value. What a chunk lists by its parameters is
therefore cut in the same way: lists of whole values lose their ends, and of lists of records the last entry may
be shorter besides. The main statement is `records_cut`. -/
namespace Sctp

namespace Param

/-- The record with so many octets of its value at most. -/
def cut (size : Nat) (param : Param) : Param := { param with value := param.value.take size }

/-- The records whose heads are within the first octets, with what these hold of the values. -/
def cutParams (size : Nat) : List Param → List Param
  | [] => []
  | param :: later => if size < 4 then [] else param.cut (size - 4) :: cutParams (size - param.wireLength) later

theorem cutParams_few {size : Nat} (few : size < 4) (params : List Param) : cutParams size params = [] := by
  cases params with
  | nil => rfl
  | cons param later => exact if_pos few

theorem getElem?_cutParams (size : Nat) (params : List Param) (i : Nat) :
    (cutParams size params)[i]? =
      if paramOffset params i + 4 ≤ size then params[i]?.map (cut (size - paramOffset params i - 4)) else none := by
  induction params generalizing size i with
  | nil => simp [cutParams]
  | cons param later ih =>
    by_cases few : size < 4
    · rw [cutParams_few few,if_neg (by omega)]
      rfl
    rw [cutParams,if_neg few]
    cases i with
    | zero =>
      rw [paramOffset_zero,if_pos (by omega)]
      rfl
    | succ i =>
      rw [paramOffset_cons,List.getElem?_cons_succ,List.getElem?_cons_succ,ih,← Nat.sub_sub size]
      exact if_congr (by omega) rfl rfl

theorem walk_few {area : Bytes} (few : area.length < 4) : walk area = [] :=
  (walked area).tiled.none.mpr few

theorem walk_of_take (area : Bytes) (size : Nat) : walk (area.take size) = cutParams size (walk area) := by
  fun_induction walk area generalizing size with
  | case1 c₀ c₁ l₀ l₁ rest short =>
    by_cases few : size < 4
    · rw [cutParams_few few,walk_few]
      rw [List.length_take]
      omega
    obtain ⟨more,rfl⟩ : ∃ more, size = more + 4 := ⟨size - 4,by omega⟩
    simp [walk,short,cutParams,cut]
  | case2 c₀ c₁ l₀ l₁ rest covers ih =>
    by_cases few : size < 4
    · rw [cutParams_few few,walk_few]
      rw [List.length_take]
      omega
    obtain ⟨more,rfl⟩ : ∃ more, size = more + 4 := ⟨size - 4,by omega⟩
    have padded := le_align4 (word16 l₀ l₁).toNat
    have behind : (rest.take more).drop (align4 (word16 l₀ l₁).toNat - 4) =
        (rest.drop (align4 (word16 l₀ l₁).toNat - 4)).take (more + 4 - align4 (word16 l₀ l₁).toNat) := by
      rw [List.drop_take]
      congr 1
      omega
    simp only [List.take_succ_cons]
    rw [walk,if_neg covers,behind,ih,cutParams,if_neg few,cut,List.take_take,List.take_take,Nat.min_comm]
    rfl
  | case3 area headless =>
    have few := length_lt_of_headless headless
    rw [walk_few,cutParams]
    rw [List.length_take]
    omega

/-- The list is a front of the whole one, and only the value of its last record may be cut. -/
inductive Shortened : List Param → List Param → Prop
  | nothing (whole : List Param) : Shortened [] whole
  | last (param : Param) (size : Nat) (rest : List Param) : Shortened [param.cut size] (param :: rest)
  | next (param : Param) {cut whole : List Param} (later : Shortened cut whole) :
    Shortened (param :: cut) (param :: whole)

theorem shortened_cutParams (size : Nat) {params : List Param}
    (held : ∀ param ∈ params, param.value.length ≤ param.length - 4) : Shortened (cutParams size params) params := by
  induction params generalizing size with
  | nil => exact .nothing _
  | cons param later ih =>
    by_cases few : size < 4
    · rw [cutParams_few few]
      exact .nothing _
    rw [cutParams,if_neg few]
    by_cases within : size - param.wireLength < 4
    · rw [cutParams_few within]
      exact .last param _ later
    -- room for the head of a later record leaves this one whole, as its value is no longer than it declares
    · have padded : param.length ≤ param.wireLength := le_align4 _
      have value := held param List.mem_cons_self
      have uncut : param.cut (size - 4) = param := by
        rw [cut,List.take_of_length_le (by omega)]
      rw [uncut]
      exact .next param (ih _ fun other there => held other (List.mem_cons_of_mem _ there))

theorem length_value_walk (area : Bytes) : ∀ param ∈ walk area, param.value.length ≤ param.length - 4 := by
  intro param there
  obtain ⟨i,inside,rfl⟩ := List.mem_iff_getElem.mp there
  have size := congrArg List.length ((walked area).readAt i inside).value
  rw [length_slice] at size
  omega

theorem shortened_walk (area : Bytes) (size : Nat) : Shortened (walk (area.take size)) (walk area) := by
  rw [walk_of_take]
  exact shortened_cutParams size (length_value_walk area)

namespace Shortened
variable {cut whole : List Param} (shortened : Shortened cut whole)
include shortened

theorem append (rest : List Param) : Shortened cut (whole ++ rest) := by
  induction shortened with
  | nothing whole => exact .nothing _
  | last param size later => exact .last param size _
  | next param _ ih => exact .next param ih

theorem behind (front : List Param) : Shortened (front ++ cut) (front ++ whole) := by
  induction front with
  | nil => exact shortened
  | cons param front ih => exact .next param ih

/-- What is read off each value, and of a cut value only from its front, is a front of the whole again. -/
theorem flatMap_prefix {Field : Type} {fields : Param → List Field}
    (front : ∀ param size, fields (param.cut size) <+: fields param) :
    cut.flatMap fields <+: whole.flatMap fields := by
  induction shortened with
  | nothing whole => exact List.nil_prefix
  | last param size later =>
    rw [List.flatMap_singleton,List.flatMap_cons]
    exact (front param size).trans (List.prefix_append _ _)
  | next param _ ih =>
    rw [List.flatMap_cons,List.flatMap_cons]
    exact (List.prefix_append_right_inj _).mpr ih

theorem filterMap_prefix {Field : Type} {field? : Param → Option Field}
    (front : ∀ param size, field? (param.cut size) = none ∨ field? (param.cut size) = field? param) :
    cut.filterMap field? <+: whole.filterMap field? := by
  rw [List.filterMap_eq_flatMap_toList,List.filterMap_eq_flatMap_toList]
  apply shortened.flatMap_prefix
  intro param size
  rcases front param size with lost | kept
  · simp [lost]
  · rw [kept]

theorem flatMap {records : Param → List Param}
    (front : ∀ param size, Shortened (records (param.cut size)) (records param)) :
    Shortened (cut.flatMap records) (whole.flatMap records) := by
  induction shortened with
  | nothing whole => exact .nothing _
  | last param size later =>
    rw [List.flatMap_singleton,List.flatMap_cons]
    exact (front param size).append _
  | next param _ ih =>
    rw [List.flatMap_cons,List.flatMap_cons]
    exact ih.behind _

end Shortened

/-- A field that needs so many octets of a value, and no more of it, is lost or kept by a cut. -/
theorem lost_or_kept {Field : Type} (code : UInt16) (width : Nat) {read? : Bytes → Option Field}
    (short : ∀ value, value.length < width → read? value = none)
    (front : ∀ value, read? (value.take width) = read? value) (param : Param) (size : Nat) :
    (if (param.cut size).code = code then read? (param.cut size).value else none) = none ∨
      (if (param.cut size).code = code then read? (param.cut size).value else none) =
        if param.code = code then read? param.value else none := by
  change (if param.code = code then read? (param.value.take size) else none) = none ∨
    (if param.code = code then read? (param.value.take size) else none) = _
  by_cases few : size < width
  · have lost : read? (param.value.take size) = none := by
      apply short
      rw [List.length_take]
      omega
    left
    rw [lost,ite_self]
  · right
    rw [← front (param.value.take size),List.take_take,Nat.min_eq_left (Nat.not_lt.mp few),front]

theorem words16_take (value : Bytes) (size : Nat) : words16 (value.take size) <+: words16 value := by
  fun_induction words16 value generalizing size with
  | case1 a b rest ih =>
    rcases size with - | - | size
    · exact List.nil_prefix
    · exact List.nil_prefix
    · rw [List.take_succ_cons,List.take_succ_cons,words16]
      exact (List.prefix_cons_inj _).mpr (ih size)
  | case2 value short =>
    rcases value with - | ⟨a,- | ⟨b,rest⟩⟩
    · simp [words16]
    · cases size <;> simp [words16]
    · exact (short a b rest rfl).elim

theorem supported_cut (param : Param) (size : Nat) : supported (param.cut size) <+: supported param := by
  change (if param.code = 12 then words16 (param.value.take size) else []) <+: if param.code = 12 then _ else []
  split
  · exact words16_take param.value size
  · exact List.nil_prefix

theorem wrapped_cut (param : Param) (size : Nat) : Shortened (wrapped (param.cut size)) (wrapped param) := by
  change Shortened (if param.code = 8 then walk (param.value.take size) else []) (if param.code = 8 then _ else [])
  split
  · exact shortened_walk param.value size
  · exact .nothing _

end Param

structure Addresses.Front (cut whole : Addresses) : Prop where
  ipv4 : cut.ipv4 <+: whole.ipv4
  ipv6 : cut.ipv6 <+: whole.ipv6

theorem Param.Shortened.addresses {cut whole : List Param} (shortened : Shortened cut whole) :
    Addresses.Front (.ofParams cut) (.ofParams whole) where
  ipv4 := by
    apply shortened.filterMap_prefix
    apply lost_or_kept 5 4
    · intro value few
      simp [Ipv4.ofPrefix?,few]
    · intro value
      simp [Ipv4.ofPrefix?,List.take_take]
  ipv6 := by
    apply shortened.filterMap_prefix
    apply lost_or_kept 6 16
    · intro value few
      simp [Ipv6.ofPrefix?,few]
    · intro value
      simp [Ipv6.ofPrefix?,List.take_take]

/-- What a chunk with lists of parameters or causes shows, beside what the whole chunk shows. -/
inductive Content.Shortened (size : Nat) : Content → Content → Prop
  | init (fields : InitFields) (cut whole : InitParams) (addresses : cut.addresses.Front whole.addresses)
    (supported : cut.supported <+: whole.supported) :
    Shortened size (.init { fields with params := fields.params.take size } (some cut)) (.init fields (some whole))
  | initAck (fields : InitFields) (cut whole : InitAckParams) (addresses : cut.addresses.Front whole.addresses)
    (unrecognized : Param.Shortened cut.unrecognized whole.unrecognized) :
    Shortened size (.initAck { fields with params := fields.params.take size } (some cut))
      (.initAck fields (some whole))
  | abort (cut whole : List Param) (causes : Param.Shortened cut whole) :
    Shortened size (.abort (some cut)) (.abort (some whole))
  | error (cut whole : List Param) (causes : Param.Shortened cut whole) :
    Shortened size (.error (some cut)) (.error (some whole))

theorem InitFields.ofBody?_front (body : Bytes) (whole : 16 ≤ body.length) :
    ∃ fields : InitFields, ∀ params, ofBody? (body.take 16 ++ params) = some { fields with params := params } := by
  match body, whole with
  | t₀ :: t₁ :: t₂ :: t₃ :: w₀ :: w₁ :: w₂ :: w₃ :: o₀ :: o₁ :: i₀ :: i₁ :: n₀ :: n₁ :: n₂ :: n₃ :: params, _ =>
    exact ⟨⟨word32 t₀ t₁ t₂ t₃,word32 w₀ w₁ w₂ w₃,word16 o₀ o₁,word16 i₀ i₁,word32 n₀ n₁ n₂ n₃,params⟩,fun _ => rfl⟩

theorem InitFields.ofBody?_take (body : Bytes) (size : Nat) (whole : 16 ≤ (body.take size).length) :
    ∃ fields, ofBody? body = some fields ∧
      ofBody? (body.take size) = some { fields with params := fields.params.take (size - 16) } := by
  rw [List.length_take] at whole
  obtain ⟨fields,read⟩ := ofBody?_front body (by omega)
  have front : (body.take size).take 16 = body.take 16 := by rw [List.take_take,Nat.min_eq_left (by omega)]
  refine ⟨{ fields with params := body.drop 16 },?_,?_⟩
  · rw [← read,List.take_append_drop]
  · rw [← read,← front,← List.drop_take,List.take_append_drop]

theorem InitParams.front {cut whole : List Param} (shortened : Param.Shortened cut whole) :
    (ofParams cut).addresses.Front (ofParams whole).addresses ∧
      (ofParams cut).supported <+: (ofParams whole).supported := by
  rw [ofParams_eq,ofParams_eq]
  exact ⟨shortened.addresses,shortened.flatMap_prefix Param.supported_cut⟩

theorem InitAckParams.front {cut whole : List Param} (shortened : Param.Shortened cut whole) :
    (ofParams cut).addresses.Front (ofParams whole).addresses ∧
      Param.Shortened (ofParams cut).unrecognized (ofParams whole).unrecognized := by
  rw [ofParams_eq,ofParams_eq]
  exact ⟨shortened.addresses,shortened.flatMap Param.wrapped_cut⟩

theorem Content.ofRaw_init {raw : RawChunk} {fields : InitFields} (typed : raw.typeCode = 1)
    (read : InitFields.ofBody? raw.body = some fields) : ofRaw raw = init fields none := by
  simp [ofRaw,typed,read]

theorem Content.ofRaw_initAck {raw : RawChunk} {fields : InitFields} (typed : raw.typeCode = 2)
    (read : InitFields.ofBody? raw.body = some fields) : ofRaw raw = initAck fields none := by
  simp [ofRaw,typed,read]

theorem Chunk.shortened_cut (raw : RawChunk) (size : Nat) (lists : raw.typeCode ∈ [1,2,6,9])
    (whole : (ofRaw (raw.cut size)).isStunted = false) :
    Content.Shortened (size - fixedLength raw.typeCode) (ofRaw (raw.cut size)).parse.content
      (ofRaw raw).parse.content := by
  have held : fixedLength raw.typeCode ≤ (raw.body.take size).length := Nat.not_lt.mp (of_decide_eq_false whole)
  have same : (raw.cut size).typeCode = raw.typeCode := rfl
  change Content.Shortened _ ((Content.ofRaw (raw.cut size)).parse (raw.body.take size))
    ((Content.ofRaw raw).parse raw.body)
  simp only [List.mem_cons,List.not_mem_nil,or_false] at lists
  rcases lists with typed | typed | typed | typed
  case inl =>
    rw [typed] at held ⊢
    obtain ⟨fields,read,read_cut⟩ := InitFields.ofBody?_take raw.body size held
    obtain ⟨addresses,supported⟩ := InitParams.front (Param.shortened_walk fields.params (size - 16))
    rw [Content.ofRaw_init typed read,Content.ofRaw_init (same.trans typed) read_cut]
    exact .init fields _ _ addresses supported
  case inr.inl =>
    rw [typed] at held ⊢
    obtain ⟨fields,read,read_cut⟩ := InitFields.ofBody?_take raw.body size held
    obtain ⟨addresses,unrecognized⟩ := InitAckParams.front (Param.shortened_walk fields.params (size - 16))
    rw [Content.ofRaw_initAck typed read,Content.ofRaw_initAck (same.trans typed) read_cut]
    exact .initAck fields _ _ addresses unrecognized
  case inr.inr.inl =>
    rw [Content.ofRaw,Content.ofRaw,same,typed]
    exact .abort _ _ (Param.shortened_walk raw.body size)
  case inr.inr.inr =>
    rw [Content.ofRaw,Content.ofRaw,same,typed]
    exact .error _ _ (Param.shortened_walk raw.body size)

namespace Param

theorem records_cut :
    (∀ area size i, (walk (area.take size))[i]? =
        if paramOffset (walk area) i + 4 ≤ size then
          (walk area)[i]?.map (cut (size - paramOffset (walk area) i - 4))
        else none) ∧
      ∀ (raw : RawChunk) (size : Nat), raw.typeCode ∈ [1,2,6,9] →
        (Chunk.ofRaw (raw.cut size)).isStunted = false →
          Content.Shortened (size - Chunk.fixedLength raw.typeCode) (Chunk.ofRaw (raw.cut size)).parse.content
            (Chunk.ofRaw raw).parse.content := by
  refine ⟨?_,Chunk.shortened_cut⟩
  intro area size i
  rw [walk_of_take,getElem?_cutParams]

/-- An INIT ACK with an address and a wrapper of two parameters, of which the second has a value of two octets. -/
def wrappingInitAck : RawChunk where
  lead := 2
  flags := 0
  declared := 44
  body :=
    [0, 0, 0, 7, 0, 1, 0, 0, 0, 10, 0, 10, 0, 0, 0, 3,
      0, 5, 0, 8, 10, 0, 0, 1, 0, 8, 0, 16, 0xC0, 0, 0, 4, 0x80, 8, 0, 6, 1, 2, 0, 0]
  index := 0

theorem records_cut_wrappingInitAck :
    (Chunk.ofRaw (wrappingInitAck.cut 37)).isStunted = false ∧
      Content.Shortened 21 (Chunk.ofRaw (wrappingInitAck.cut 37)).parse.content
        (Chunk.ofRaw wrappingInitAck).parse.content :=
  ⟨by decide,records_cut.2 wrappingInitAck 37 (by decide) (by decide)⟩

end Param

end Sctp
