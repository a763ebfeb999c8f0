import Sctp.Code.Registry
import Mathlib.Data.List.Forall2
import Mathlib.Data.List.Nodup
import Mathlib.Data.Nat.Digits.Defs

/-! The spellings of a code: its name, and every way to write it in hexadecimal. A text is read as a code exactly if
it is a spelling of it, and of all these spellings one alone is ever written. The main statement is
`CodeTable.spelt_registries`, for all registries. -/
namespace Sctp

namespace Text

def lowerDigits : List Char := ['0', '1', '2', '3', '4', '5', '6', '7', '8', '9', 'a', 'b', 'c', 'd', 'e', 'f']

def upperDigits : List Char := ['0', '1', '2', '3', '4', '5', '6', '7', '8', '9', 'A', 'B', 'C', 'D', 'E', 'F']

def IsHexDigit (c : Char) (value : Nat) : Prop := lowerDigits[value]? = some c ∨ upperDigits[value]? = some c

/-- At least one digit, leading zeros included; the last one counts ones. -/
def IsHexNumber (digits : List Char) (n : Nat) : Prop :=
  digits ≠ [] ∧ ∃ values, List.Forall₂ IsHexDigit digits values ∧ n = Nat.ofDigits 16 values.reverse

theorem toNat_lt_of_hexDigit? {c : Char} {value : Nat} (read : hexDigit? c = some value) : c.toNat < 128 := by
  have below : ∀ last : Char, last.toNat < 128 → c ≤ last → c.toNat < 128 := by
    intro last ascii upto
    exact Nat.lt_of_le_of_lt (UInt32.le_iff_toNat_le.mp upto) ascii
  unfold hexDigit? at read
  split at read
  · exact below '9' (by decide) (by tauto)
  split at read
  · exact below 'f' (by decide) (by tauto)
  split at read
  · exact below 'F' (by decide) (by tauto)
  · cases read

theorem hexDigit?_eq_some_iff (c : Char) (value : Nat) : hexDigit? c = some value ↔ IsHexDigit c value := by
  constructor
  · intro read
    have listed : ∀ n < 128, ∀ value ∈ hexDigit? (Char.ofNat n),
        lowerDigits[value]? = some (Char.ofNat n) ∨ upperDigits[value]? = some (Char.ofNat n) := by
      decide +kernel
    have found := listed c.toNat (toNat_lt_of_hexDigit? read) value
    rw [Char.ofNat_toNat] at found
    exact found read
  · intro digit
    -- each digit stands at the place of its value
    have inverse : ∀ digits ∈ [lowerDigits,upperDigits], digits.map hexDigit? = (List.range 16).map some := by
      decide +kernel
    have read : ∀ digits ∈ [lowerDigits,upperDigits], digits[value]? = some c → hexDigit? c = some value := by
      intro digits either there
      have placed := congrArg (·[value]?) (inverse digits either)
      simp only [List.getElem?_map,there,Option.map_some] at placed
      obtain ⟨place,found,same⟩ := Option.map_eq_some_iff.mp placed.symm
      obtain ⟨inside,rfl⟩ := List.getElem?_eq_some_iff.mp found
      rw [← same,List.getElem_range]
    rcases digit with lower | upper
    · exact read _ (List.mem_cons_self ..) lower
    · exact read _ (List.mem_cons_of_mem _ (List.mem_singleton.mpr rfl)) upper

/-- What has been read so far counts for the place that is reached. -/
theorem foldlM_digits_iff (digits : List Char) (start n : Nat) :
    digits.foldlM (fun value c => (hexDigit? c).map (value * 16 + ·)) start = some n ↔
      ∃ values, List.Forall₂ IsHexDigit digits values ∧
        n = start * 16 ^ values.length + Nat.ofDigits 16 values.reverse := by
  induction digits generalizing start with
  | nil =>
    simp [eq_comm]
  | cons c rest ih =>
    rw [List.foldlM_cons]
    constructor
    · intro read
      obtain ⟨value,step,read⟩ := Option.bind_eq_some_iff.mp read
      obtain ⟨digit,known,rfl⟩ := Option.map_eq_some_iff.mp step
      obtain ⟨values,digits,rfl⟩ := (ih _).mp read
      refine ⟨digit :: values,.cons ((hexDigit?_eq_some_iff c digit).mp known) digits,?_⟩
      rw [Nat.ofDigits_reverse_cons,List.length_cons]
      ring
    · rintro ⟨values,digits,rfl⟩
      cases digits with
      | cons digit others =>
        rename_i value values
        refine Option.bind_eq_some_iff.mpr ⟨start * 16 + value,?_,(ih _).mpr ⟨values,others,?_⟩⟩
        · rw [(hexDigit?_eq_some_iff c value).mpr digit]
          rfl
        · rw [Nat.ofDigits_reverse_cons,List.length_cons]
          ring

theorem number?_eq_some_iff (digits : List Char) (n : Nat) :
    number? 16 hexDigit? digits = some n ↔ IsHexNumber digits n := by
  cases digits with
  | nil => simp [number?,IsHexNumber]
  | cons c rest =>
    have sums : ∀ values : List Nat, 0 * 16 ^ values.length + Nat.ofDigits 16 values.reverse =
        Nat.ofDigits 16 values.reverse := fun values => by rw [Nat.zero_mul,Nat.zero_add]
    rw [number?,List.isEmpty_cons,if_neg Bool.false_ne_true,foldlM_digits_iff]
    simp only [sums,IsHexNumber,ne_eq,List.cons_ne_nil,not_false_eq_true,true_and]

theorem IsHexNumber.concat {digits : List Char} {n value : Nat} {c : Char} (number : IsHexNumber digits n)
    (digit : IsHexDigit c value) : IsHexNumber (digits ++ [c]) (n * 16 + value) := by
  obtain ⟨some_digit,values,digits,rfl⟩ := number
  refine ⟨List.append_ne_nil_of_left_ne_nil some_digit _,values ++ [value],?_,?_⟩
  · exact List.rel_append digits (.cons digit .nil)
  · rw [List.reverse_append,List.reverse_singleton,List.singleton_append,Nat.ofDigits_cons]
    exact Nat.add_comm _ _ |>.trans (by rw [Nat.mul_comm])

theorem isHexDigit_digitChar {value : Nat} (small : value < 16) : IsHexDigit value.digitChar value := by
  have table : ∀ value < 16, lowerDigits[value]? = some value.digitChar := by decide
  exact .inl (table value small)

theorem isHexNumber_toDigits (n : Nat) : IsHexNumber (Nat.toDigits 16 n) n := by
  induction n using Nat.strongRecOn with
  | ind n ih =>
    rw [Nat.toDigits_eq_if (by decide)]
    split
    · rename_i small
      refine ⟨List.cons_ne_nil _ _,[n],.cons (isHexDigit_digitChar small) .nil,?_⟩
      exact (Nat.ofDigits_singleton).symm
    · rename_i large
      have number := (ih (n / 16) (by omega)).concat (isHexDigit_digitChar (Nat.mod_lt n (by decide)))
      rwa [Nat.div_add_mod'] at number

end Text

namespace CodeTable

open Text (IsHexNumber)

/-- A name of the registry, or `0x` and a hexadecimal number that the field can hold, which may have a plus sign. -/
inductive Spells (table : CodeTable) : String → Nat → Prop
  | name (code : Nat) (name : String) (listed : (code,name) ∈ table.entries) : Spells table name code
  | hex (sign digits : List Char) (code : Nat) (plus : sign = [] ∨ sign = ['+']) (number : IsHexNumber digits code)
    (fits : code < table.bound) : Spells table (String.ofList ('0' :: 'x' :: (sign ++ digits))) code

/-- No two entries share a code or a name, each code fits its field, and no name could be a number. -/
structure Sound (table : CodeTable) : Prop where
  codes : (table.entries.map Prod.fst).Nodup
  names : (table.entries.map Prod.snd).Nodup
  fits : ∀ entry ∈ table.entries, entry.1 < table.bound
  apart : ∀ entry ∈ table.entries, hexSpelling? entry.2.toList = none

theorem sound_registries : ∀ table ∈ registries, table.Sound := by
  intro table listed
  have checked : ∀ table ∈ registries, (table.entries.map Prod.fst).Nodup ∧ (table.entries.map Prod.snd).Nodup ∧
      (∀ entry ∈ table.entries, entry.1 < table.bound) ∧
        ∀ entry ∈ table.entries, hexSpelling? entry.2.toList = none := by
    decide +kernel
  obtain ⟨codes,names,fits,apart⟩ := checked table listed
  exact ⟨codes,names,fits,apart⟩

theorem hexSpelling?_eq_some_iff (spelling : List Char) (n : Nat) :
    hexSpelling? spelling = some n ↔ ∃ sign digits, (sign = [] ∨ sign = ['+']) ∧ IsHexNumber digits n ∧
      spelling = '0' :: 'x' :: (sign ++ digits) := by
  constructor
  · intro read
    unfold hexSpelling? at read
    split at read
    · rename_i digits
      exact ⟨['+'],digits,.inr rfl,(Text.number?_eq_some_iff digits n).mp read,rfl⟩
    · rename_i digits _
      exact ⟨[],digits,.inl rfl,(Text.number?_eq_some_iff digits n).mp read,rfl⟩
    · cases read
  · rintro ⟨sign,digits,rfl | rfl,number,rfl⟩
    · rw [List.nil_append,hexSpelling?]
      · exact (Text.number?_eq_some_iff digits n).mpr number
      · -- a plus sign is no digit
        rintro others rfl
        obtain ⟨-,values,digits,-⟩ := number
        cases digits with
        | cons digit _ =>
          have none_read := (Text.hexDigit?_eq_some_iff _ _).mpr digit
          cases none_read
    · exact (Text.number?_eq_some_iff digits n).mpr number

theorem exists_of_find?_map {Entry Key Value : Type} [DecidableEq Key] {entries : List Entry} {key : Entry → Key}
    (value : Entry → Value) (distinct : (entries.map key).Nodup) (wanted : Key) (result : Value) :
    (entries.find? fun entry => key entry == wanted).map value = some result ↔
      ∃ entry ∈ entries, key entry = wanted ∧ value entry = result := by
  constructor
  · intro found
    obtain ⟨entry,first,same⟩ := Option.map_eq_some_iff.mp found
    have keyed := List.find?_some first
    exact ⟨entry,List.mem_of_find?_eq_some first,beq_iff_eq.mp keyed,same⟩
  · rintro ⟨entry,listed,rfl,rfl⟩
    obtain ⟨first,found⟩ : ∃ first, (entries.find? fun other => key other == key entry) = some first := by
      rw [← Option.isSome_iff_exists,List.find?_isSome]
      exact ⟨entry,listed,beq_self_eq_true _⟩
    have keyed := List.find?_some (p := fun other => key other == key entry) found
    have same := List.inj_on_of_nodup_map distinct (List.mem_of_find?_eq_some found) listed (beq_iff_eq.mp keyed)
    rw [found,same]
    rfl

section Sound
variable {table : CodeTable} (sound : table.Sound)
include sound

theorem code?_eq_some_iff (name : String) (code : Nat) : table.code? name = some code ↔ (code,name) ∈ table.entries := by
  rw [code?,exists_of_find?_map Prod.fst sound.names]
  constructor
  · rintro ⟨⟨code,name⟩,listed,rfl,rfl⟩
    exact listed
  · intro listed
    exact ⟨(code,name),listed,rfl,rfl⟩

theorem name?_eq_some_iff (code : Nat) (name : String) : table.name? code = some name ↔ (code,name) ∈ table.entries := by
  rw [name?,exists_of_find?_map Prod.snd sound.codes]
  constructor
  · rintro ⟨⟨code,name⟩,listed,rfl,rfl⟩
    exact listed
  · intro listed
    exact ⟨(code,name),listed,rfl,rfl⟩

theorem ofText?_eq_some_iff (spelling : String) (code : Nat) :
    table.ofText? spelling = some code ↔ table.Spells spelling code := by
  constructor
  · intro read
    unfold ofText? at read
    split at read
    · rename_i named
      cases read
      exact .name code spelling ((code?_eq_some_iff sound spelling code).mp named)
    · obtain ⟨number,fits⟩ := Option.filter_eq_some_iff.mp read
      obtain ⟨sign,digits,plus,number,same⟩ := (hexSpelling?_eq_some_iff _ code).mp number
      have spelt : table.Spells (String.ofList ('0' :: 'x' :: (sign ++ digits))) code :=
        .hex sign digits code plus number (of_decide_eq_true fits)
      rwa [← same,String.ofList_toList] at spelt
  · intro spells
    cases spells with
    | name code name listed =>
      rw [ofText?,(code?_eq_some_iff sound spelling code).mpr listed]
    | hex sign digits code plus number fits =>
      have hex := (hexSpelling?_eq_some_iff _ code).mpr ⟨sign,digits,plus,number,rfl⟩
      have unnamed : table.code? (String.ofList ('0' :: 'x' :: (sign ++ digits))) = none := by
        rw [Option.eq_none_iff_forall_ne_some]
        intro other named
        have apart := sound.apart _ ((code?_eq_some_iff sound _ other).mp named)
        rw [String.toList_ofList,hex] at apart
        cases apart
      rw [ofText?,unnamed,String.toList_ofList,hex]
      exact Option.filter_eq_some_iff.mpr ⟨rfl,decide_eq_true fits⟩

theorem spells_text {code : Nat} (fits : code < table.bound) : table.Spells (table.text code) code := by
  unfold text
  split
  · rename_i name named
    exact .name code name ((name?_eq_some_iff sound code name).mp named)
  · have digits : table.Spells (String.ofList ('0' :: 'x' :: ([] ++ Nat.toDigits 16 code))) code :=
      .hex [] _ code (.inl rfl) (Text.isHexNumber_toDigits code) fits
    have same : "0x" ++ Text.hex code = String.ofList ('0' :: 'x' :: ([] ++ Nat.toDigits 16 code)) := by
      simp only [Text.hex,← String.toList_inj,String.toList_append,String.toList_ofList,List.nil_append]
      rfl
    rwa [← same] at digits

theorem fits_of_spells {spelling : String} {code : Nat} (spells : table.Spells spelling code) : code < table.bound := by
  cases spells with
  | name code name listed => exact sound.fits _ listed
  | hex sign digits code plus number fits => exact fits

theorem read_eq_ok_iff (spelling : String) (code : Nat) :
    table.read spelling = .ok code ↔ table.Spells spelling code := by
  rw [← ofText?_eq_some_iff sound,read]
  cases table.ofText? spelling <;> simp

theorem read_eq_error {spelling : String} (unspelt : ∀ code, ¬ table.Spells spelling code) :
    table.read spelling = .error (table.rejection spelling) := by
  have unread : table.ofText? spelling = none := by
    rw [Option.eq_none_iff_forall_ne_some]
    intro code read
    exact unspelt code ((ofText?_eq_some_iff sound spelling code).mp read)
  rw [read,unread]

theorem read_text {code : Nat} (fits : code < table.bound) : table.read (table.text code) = .ok code :=
  (read_eq_ok_iff sound _ code).mpr (spells_text sound fits)

end Sound

/-- What becomes of a text that is read and written again. -/
def normal (table : CodeTable) (spelling : String) : Except String String := (table.read spelling).map table.text

/-- How the codes of a registry are read and written. -/
structure Spelt (table : CodeTable) : Prop where
  accepts : ∀ spelling code, table.read spelling = .ok code ↔ table.Spells spelling code
  rejects : ∀ spelling, (∀ code, ¬ table.Spells spelling code) →
    table.read spelling = .error ("unknown " ++ table.title ++ ": " ++ spelling)
  returns : ∀ code < table.bound, table.read (table.text code) = .ok code
  writes : ∀ spelling code, table.Spells spelling code → table.normal spelling = .ok (table.text code)
  settles : ∀ spelling written, table.normal spelling = .ok written → table.normal written = .ok written
  agrees : ∀ left right code other, table.Spells left code → table.Spells right other →
    (table.normal left = table.normal right ↔ code = other)

theorem normal_of_spells {table : CodeTable} (sound : table.Sound) {spelling : String} {code : Nat}
    (spells : table.Spells spelling code) : table.normal spelling = .ok (table.text code) := by
  rw [normal,(read_eq_ok_iff sound spelling code).mpr spells]
  rfl

theorem spelt_of_sound {table : CodeTable} (sound : table.Sound) : table.Spelt where
  accepts := read_eq_ok_iff sound
  rejects _ unspelt := read_eq_error sound unspelt
  returns _ fits := read_text sound fits
  writes _ _ spells := normal_of_spells sound spells
  settles spelling written wrote := by
    unfold normal at wrote
    cases read : table.read spelling with
    | error message =>
      rw [read] at wrote
      cases wrote
    | ok code =>
      rw [read] at wrote
      cases wrote
      have fits := fits_of_spells sound ((read_eq_ok_iff sound spelling code).mp read)
      exact normal_of_spells sound (spells_text sound fits)
  agrees left right code other spells_left spells_right := by
    rw [normal_of_spells sound spells_left,normal_of_spells sound spells_right]
    constructor
    · intro same
      have text : table.text code = table.text other := Except.ok.inj same
      have read := read_text sound (fits_of_spells sound spells_left)
      rw [text,read_text sound (fits_of_spells sound spells_right)] at read
      exact (Except.ok.inj read).symm
    · rintro rfl
      rfl

/-- A chunk type has eight bits; the codes of the other registries have sixteen. -/
theorem spelt_registries :
    (registries.map fun table => (table.title,table.bound)) =
        [("ChunkType",2 ^ 8),("ParamType",2 ^ 16),("ErrorCause",2 ^ 16),("EtherType",2 ^ 16)] ∧
      ∀ table ∈ registries, table.Spelt :=
  ⟨rfl,fun _ listed => spelt_of_sound (sound_registries _ listed)⟩

theorem spelt_registries_ipv4 :
    etherTypes ∈ registries ∧ etherTypes.Spells "0x+0800" 2048 ∧ etherTypes.read "0x+0800" = .ok 2048 ∧
      etherTypes.normal "0x+0800" = etherTypes.normal "ipv4" := by
  have listed : etherTypes ∈ registries := by simp [registries]
  have name : etherTypes.Spells "ipv4" 2048 := .name 2048 "ipv4" (by decide)
  have digits : List.Forall₂ Text.IsHexDigit ['0','8','0','0'] [0,8,0,0] :=
    .cons (.inl rfl) (.cons (.inl rfl) (.cons (.inl rfl) (.cons (.inl rfl) .nil)))
  have hex : etherTypes.Spells "0x+0800" 2048 :=
    .hex ['+'] ['0','8','0','0'] 2048 (.inr rfl) ⟨nofun,_,digits,rfl⟩ (by decide)
  have spelt := spelt_registries.2 etherTypes listed
  exact ⟨listed,hex,(spelt.accepts _ _).mpr hex,(spelt.agrees _ _ _ _ hex name).mpr rfl⟩

end CodeTable

end Sctp
