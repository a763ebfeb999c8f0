import Sctp.Proofs.CutParams
import Mathlib.Data.List.Forall2

/-! No walk reads a pad. Areas that differ only behind the records of one of them are walked alike, and so are
areas of parameters that differ besides in the pads within the values of wrappers, up to these values. -/
namespace Sctp

/-- As many octets, and the same ones at all places that are not exempt. -/
structure AgreeOff (exempt : Nat → Prop) (octets other : Bytes) : Prop where
  length : other.length = octets.length
  octet : ∀ k, ¬ exempt k → other[k]? = octets[k]?

namespace AgreeOff
variable {exempt : Nat → Prop} {octets other : Bytes} (agree : AgreeOff exempt octets other)
include agree

theorem mono {wider : Nat → Prop} (fewer : ∀ k, exempt k → wider k) : AgreeOff wider octets other where
  length := agree.length
  octet k outside := agree.octet k fun there => outside (fewer k there)

theorem eq_of_clear (clear : ∀ k < octets.length, ¬ exempt k) : other = octets := by
  apply List.ext_getElem?
  intro k
  by_cases inside : k < octets.length
  · exact agree.octet k (clear k inside)
  · rw [List.getElem?_eq_none (Nat.not_lt.mp inside),List.getElem?_eq_none]
    rw [agree.length]
    exact Nat.not_lt.mp inside

theorem take (size : Nat) : AgreeOff (fun k => exempt k ∧ k < size) (octets.take size) (other.take size) where
  length := by rw [List.length_take,List.length_take,agree.length]
  octet k outside := by
    rw [List.getElem?_take,List.getElem?_take]
    by_cases inside : k < size
    · rw [agree.octet k fun there => outside ⟨there,inside⟩]
    · rw [if_neg inside,if_neg inside]

theorem take_eq {size : Nat} (clear : ∀ k < size, ¬ exempt k) : other.take size = octets.take size :=
  (agree.take size).eq_of_clear fun k _ there => clear k there.2 there.1

theorem drop (size : Nat) : AgreeOff (fun k => exempt (size + k)) (octets.drop size) (other.drop size) where
  length := by rw [List.length_drop,List.length_drop,agree.length]
  octet k outside := by rw [List.getElem?_drop,List.getElem?_drop,agree.octet _ outside]

end AgreeOff

/-- The places are these, counted from behind a front of that size. -/
def Behind (front : Nat) (places : Nat → Prop) (k : Nat) : Prop := ∃ j, k = front + j ∧ places j

theorem AgreeOff.behind {front : Nat} {places : Nat → Prop} {octets other : Bytes}
    (agree : AgreeOff (Behind front places) octets other) :
    other.take front = octets.take front ∧ AgreeOff places (octets.drop front) (other.drop front) := by
  constructor
  · apply agree.take_eq
    rintro k early ⟨j,rfl,-⟩
    omega
  · apply (agree.drop front).mono
    rintro k ⟨j,same,there⟩
    rwa [Nat.add_left_cancel same]

theorem AgreeOff.set {exempt : Nat → Prop} {k : Nat} (there : exempt k) (octets : Bytes) (octet : UInt8) :
    AgreeOff exempt octets (octets.set k octet) where
  length := List.length_set
  octet j outside := by
    have elsewhere : k ≠ j := by
      rintro rfl
      exact outside there
    exact List.getElem?_set_ne elsewhere

/-- The place is in the pad behind one of the records with these lengths, which lie one behind the other. A
length that does not cover the head of its record leaves no pad. -/
def InPad (lengths : List Nat) (k : Nat) : Prop :=
  ∃ i, ∃ inside : i < lengths.length, 4 ≤ lengths[i] ∧
    offset (lengths.map align4) i + lengths[i] ≤ k ∧ k < offset (lengths.map align4) (i + 1)

instance (lengths : List Nat) (k : Nat) : Decidable (InPad lengths k) :=
  inferInstanceAs (Decidable (∃ i, ∃ inside : i < lengths.length, 4 ≤ lengths[i] ∧
    offset (lengths.map align4) i + lengths[i] ≤ k ∧ k < offset (lengths.map align4) (i + 1)))

theorem not_inPad_nil (k : Nat) : ¬ InPad [] k := by
  rintro ⟨i,inside,-⟩
  cases inside

section FirstRecord
variable {length : Nat} {lengths : List Nat} {k : Nat}

theorem not_inPad_front (held : k < length) : ¬ InPad (length :: lengths) k := by
  have padded := le_align4 length
  rintro ⟨i,inside,-,starts,-⟩
  cases i with
  | zero =>
    rw [List.getElem_cons_zero] at starts
    omega
  | succ i =>
    rw [List.map_cons,offset_cons] at starts
    omega

theorem InPad.of_behind (pad : InPad (length :: lengths) (align4 length + k)) : InPad lengths k := by
  obtain ⟨i,inside,covers,starts,stops⟩ := pad
  cases i with
  | zero =>
    rw [List.map_cons,offset_cons,offset_zero] at stops
    omega
  | succ i =>
    rw [List.map_cons,offset_cons,List.getElem_cons_succ] at starts
    rw [List.map_cons,offset_cons] at stops
    exact ⟨i,by simpa using inside,covers,by omega,by omega⟩

theorem not_inPad_malformed (short : length < 4) : ¬ InPad [length] k := by
  rintro ⟨i,inside,covers,-⟩
  obtain rfl : i = 0 := by simpa using inside
  rw [List.getElem_cons_zero] at covers
  omega

end FirstRecord

theorem exists_head {a b c d : UInt8} {rest other : Bytes} {size : Nat} (covers : 4 ≤ size)
    (same : other.take size = (a :: b :: c :: d :: rest).take size) :
    ∃ rest', other = a :: b :: c :: d :: rest' ∧ rest'.take (size - 4) = rest.take (size - 4) := by
  obtain ⟨more,rfl⟩ := Nat.exists_eq_add_of_le' covers
  match other with
  | [] | [_] | [_,_] | [_,_,_] => simp at same
  | a' :: b' :: c' :: d' :: rest' =>
    simp only [List.take_succ_cons,List.cons.injEq] at same
    obtain ⟨rfl,rfl,rfl,rfl,same⟩ := same
    exact ⟨rest',rfl,by simpa using same⟩

namespace Area

theorem walkFrom_of_agree (start index : Nat) (area other : Bytes)
    (agree : AgreeOff (InPad ((walkFrom start index area).1.map RawChunk.length)) area other) :
    walkFrom start index other = walkFrom start index area := by
  fun_induction walkFrom start index area generalizing other with
  | case1 start index lead flags l₀ l₁ rest declared short =>
    rw [agree.eq_of_clear fun k _ => not_inPad_nil k,walkFrom]
    exact if_pos short
  | case2 start index lead flags l₀ l₁ rest declared body covers cut =>
    have beyond : rest.length + 4 < declared.toNat := by
      simp only [body,List.length_take] at cut
      omega
    rw [agree.eq_of_clear fun k inside => not_inPad_front (Nat.lt_trans inside beyond),walkFrom]
    exact (if_neg covers).trans (if_pos cut)
  | case3 start index lead flags l₀ l₁ rest declared body covers whole later ih =>
    have padded := le_align4 declared.toNat
    have head : other.take declared.toNat = _ := agree.take_eq fun k held => not_inPad_front held
    obtain ⟨rest',rfl,same⟩ := exists_head (Nat.not_lt.mp covers) head
    -- the first chunk and its pad are as long as before, so the areas behind them agree off the later pads
    have behind := (agree.drop (align4 declared.toNat)).mono fun k pad => InPad.of_behind pad
    rw [drop_head _ _ _ _ _ (by omega),drop_head _ _ _ _ _ (by omega)] at behind
    have step := ih _ behind
    rw [walkFrom]
    dsimp only
    rw [same,if_neg covers,if_neg whole,step]
  | case4 start index => rw [agree.eq_of_clear fun k _ => not_inPad_nil k,walkFrom]
  | case5 start index rest headless nonempty =>
    have few := length_lt_of_headless headless
    rw [agree.eq_of_clear fun k _ => not_inPad_nil k,walkFrom_few start index few,if_neg]
    exact fun none => nonempty (List.eq_nil_of_length_eq_zero none)

end Area

namespace Param

/-- No record is read from this place: it is in the pad behind one of the records, or in one within the value of
a wrapper, whose records are all that counts. -/
inductive Idle (wraps : Param → Prop) (params : List Param) (k : Nat) : Prop
  | behind (pad : InPad (params.map length) k)
  | within (i : Nat) (inside : i < params.length) (wrapper : wraps params[i]) (j : Nat)
    (held : j < params[i].value.length) (there : k = paramOffset params i + 4 + j)
    (pad : InPad ((walk params[i].value).map length) j)

/-- The same record, up to the pads within the value of a wrapper. -/
structure Alike (wraps : Param → Prop) (param other : Param) : Prop where
  code : other.code = param.code
  declared : other.declared = param.declared
  value : AgreeOff (fun j => wraps param ∧ InPad ((walk param.value).map length) j) param.value other.value

section Records
variable {wraps : Param → Prop}

theorem Alike.refl (param : Param) : Alike wraps param param := ⟨rfl,rfl,rfl,fun _ _ => rfl⟩

theorem Alike.eq {param other : Param} (alike : Alike wraps param other) (plain : ¬ wraps param) : other = param := by
  obtain ⟨code,declared,value⟩ := other
  obtain ⟨rfl,rfl,agree⟩ := alike
  have same : value = param.value := agree.eq_of_clear fun _ _ there => plain there.1
  rw [same]

theorem not_idle_nil (k : Nat) : ¬ Idle wraps [] k := by
  rintro (pad | ⟨i,inside,-⟩)
  · exact not_inPad_nil k pad
  · cases inside

theorem not_idle_malformed {param : Param} (short : param.length < 4) (empty : param.value = []) (k : Nat) :
    ¬ Idle wraps [param] k := by
  rintro (pad | ⟨i,inside,-,j,held,-⟩)
  · exact not_inPad_malformed short pad
  · obtain rfl : i = 0 := by simpa using inside
    simp [empty] at held

variable {param : Param} {later : List Param} {k : Nat}

theorem not_idle_head (covers : 4 ≤ param.length) (early : k < 4) : ¬ Idle wraps (param :: later) k := by
  rintro (pad | ⟨i,inside,-,j,-,rfl,-⟩)
  · exact not_inPad_front (Nat.lt_of_lt_of_le early covers) pad
  · omega

theorem Idle.of_value (idle : Idle wraps (param :: later) (4 + k)) (held : 4 + k < param.length) :
    wraps param ∧ InPad ((walk param.value).map Param.length) k := by
  have padded : param.length ≤ param.wireLength := le_align4 _
  rcases idle with pad | ⟨i,inside,wrapper,j,-,there,pad⟩
  · exact (not_inPad_front held pad).elim
  · cases i with
    | zero =>
      rw [paramOffset_zero,Nat.zero_add] at there
      rw [Nat.add_left_cancel there]
      exact ⟨wrapper,pad⟩
    | succ i =>
      rw [paramOffset_cons] at there
      omega

theorem Idle.of_behind (idle : Idle wraps (param :: later) (param.wireLength + k))
    (fits : param.value.length + 4 ≤ param.wireLength) : Idle wraps later k := by
  rcases idle with pad | ⟨i,inside,wrapper,j,held,there,pad⟩
  · exact .behind pad.of_behind
  · cases i with
    | zero =>
      rw [paramOffset_zero,Nat.zero_add] at there
      rw [List.getElem_cons_zero] at held
      omega
    | succ i =>
      rw [paramOffset_cons,Nat.add_assoc,Nat.add_assoc] at there
      exact .within i (Nat.lt_of_succ_lt_succ inside) wrapper j held
        ((Nat.add_left_cancel there).trans (Nat.add_assoc _ _ _).symm) pad

end Records

theorem walk_of_agree {wraps : Param → Prop} (area other : Bytes)
    (agree : AgreeOff (Idle wraps (walk area)) area other) :
    List.Forall₂ (Alike wraps) (walk area) (walk other) := by
  fun_induction walk area generalizing other with
  | case1 c₀ c₁ l₀ l₁ rest short =>
    have nothing : ∀ k, ¬ Idle wraps [⟨word16 c₀ c₁,word16 l₀ l₁,[]⟩] k := not_idle_malformed short rfl
    rw [agree.eq_of_clear fun k _ => nothing k,walk,if_pos short]
    exact .cons (Alike.refl _) .nil
  | case2 c₀ c₁ l₀ l₁ rest short ih =>
    have covers := Nat.not_lt.mp short
    have padded := le_align4 (word16 l₀ l₁).toNat
    have head : other.take 4 = _ := agree.take_eq fun k early => not_idle_head covers early
    obtain ⟨rest',rfl,-⟩ := exists_head (Nat.le_refl 4) head
    -- a place of the value is exempt only as the pad of a record in a wrapper
    have value := ((agree.drop 4).take ((word16 l₀ l₁).toNat - 4)).mono fun k there =>
      there.1.of_value (show 4 + k < (word16 l₀ l₁).toNat by omega)
    have behind := (agree.drop (align4 (word16 l₀ l₁).toNat)).mono fun k idle => idle.of_behind (by
      rw [List.length_take]
      exact Nat.le_trans (by omega) padded)
    rw [drop_head _ _ _ _ _ (Nat.le_trans covers padded),drop_head _ _ _ _ _ (Nat.le_trans covers padded)] at behind
    rw [walk,if_neg short]
    exact .cons ⟨rfl,rfl,value⟩ (ih _ behind)
  | case3 area headless =>
    rw [agree.eq_of_clear fun k _ => not_idle_nil k,walk_few (length_lt_of_headless headless)]
    exact .nil

theorem Alike.eq_of_plain {wraps : Param → Prop} {params others : List Param}
    (alike : List.Forall₂ (Alike wraps) params others) (plain : ∀ param, ¬ wraps param) : others = params := by
  have same := alike.imp fun _ _ alike => (alike.eq (plain _)).symm
  rw [List.forall₂_eq_eq_eq] at same
  exact same.symm

theorem walk_eq_of_agree {area other : Bytes} (agree : AgreeOff (InPad ((walk area).map length)) area other) :
    walk other = walk area := by
  have idle : AgreeOff (Idle (fun _ => False) (walk area)) area other := agree.mono fun _ => .behind
  exact Alike.eq_of_plain (walk_of_agree area other idle) fun _ => not_false

end Param

end Sctp
