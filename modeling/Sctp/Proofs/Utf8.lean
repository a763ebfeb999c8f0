import Sctp.Text.Utf8

/-! Text that is valid UTF-8 is read as what it was written from: nothing in it is replaced. The octets
are those of the string type itself, so `decode_encode` compares the reading with an encoder that knows
nothing of it. -/
namespace Sctp.Text.Utf8

def encode (text : String) : Bytes := text.toUTF8.data.toList

theorem encode_eq (text : String) : encode text = text.toList.flatMap String.utf8EncodeChar := by
  rw [encode,String.toUTF8_eq_toByteArray,← String.utf8Encode_toList,List.utf8Encode,
    List.toList_data_toByteArray]

theorem toNat_further (number : Nat) : (UInt8.ofNat (number % 64 + 128)).toNat = number % 64 + 128 := by
  rw [UInt8.toNat_ofNat']
  omega

/-- A further octet that lies where it has to adds its six bits. -/
theorem trail_further (owed : Nat) (low high : UInt8) (value number : Nat) (rest : Bytes)
    (above : low.toNat ≤ number % 64 + 128) (below : number % 64 + 128 ≤ high.toNat) :
    trail (owed + 1) low high value (UInt8.ofNat (number % 64 + 128) :: rest) =
      trail owed 0x80 0xBF (value * 64 + number % 64) rest := by
  have six : (number % 64 + 128) % 64 = number % 64 := by omega
  rw [← toNat_further] at above below
  rw [trail,if_pos ⟨UInt8.le_iff_toNat_le.mpr above,UInt8.le_iff_toNat_le.mpr below⟩,toNat_further,six]

theorem trail_further_free (owed value number : Nat) (rest : Bytes) :
    trail (owed + 1) 0x80 0xBF value (UInt8.ofNat (number % 64 + 128) :: rest) =
      trail owed 0x80 0xBF (value * 64 + number % 64) rest := by
  apply trail_further
  · exact Nat.le_add_left _ _
  · change number % 64 + 128 ≤ 191
    omega

theorem first_of_two (lead : UInt8) (rest : Bytes) (above : 0xC2 ≤ lead.toNat) (below : lead.toNat ≤ 0xDF) :
    first lead rest = trail 1 0x80 0xBF (lead.toNat % 32) rest := by
  have large : ¬ lead ≤ 0x7F := by
    rw [UInt8.le_iff_toNat_le]
    change ¬ lead.toNat ≤ 127
    omega
  rw [first,if_neg large,if_pos ⟨UInt8.le_iff_toNat_le.mpr above,UInt8.le_iff_toNat_le.mpr below⟩]

theorem first_of_three (lead : UInt8) (rest : Bytes) (above : 0xE0 ≤ lead.toNat) (below : lead.toNat ≤ 0xEF) :
    first lead rest = trail 2 (if lead.toNat = 0xE0 then 0xA0 else 0x80)
      (if lead.toNat = 0xED then 0x9F else 0xBF) (lead.toNat % 16) rest := by
  simp only [first,UInt8.le_iff_toNat_le,← UInt8.toNat_inj,UInt8.reduceToNat]
  grind

theorem first_of_four (lead : UInt8) (rest : Bytes) (above : 0xF0 ≤ lead.toNat) (below : lead.toNat ≤ 0xF4) :
    first lead rest = trail 3 (if lead.toNat = 0xF0 then 0x90 else 0x80)
      (if lead.toNat = 0xF4 then 0x8F else 0xBF) (lead.toNat % 8) rest := by
  simp only [first,UInt8.le_iff_toNat_le,← UInt8.toNat_inj,UInt8.reduceToNat]
  grind

theorem valid_char (char : Char) :
    char.val.toNat < 0xD800 ∨ 0xDFFF < char.val.toNat ∧ char.val.toNat < 0x110000 := char.valid

section Encoded
variable {number : Nat} (rest : Bytes)

theorem first_encoded_one (small : number ≤ 127) :
    first (UInt8.ofNat number) rest = (Char.ofNat number,rest) := by
  have lead : (UInt8.ofNat number).toNat = number := by
    rw [UInt8.toNat_ofNat']
    omega
  rw [first,if_pos (UInt8.le_iff_toNat_le.mpr (by rw [lead]; exact small)),lead]

theorem first_encoded_two (large : 127 < number) (small : number ≤ 2047) :
    first (UInt8.ofNat (number / 64 % 32 + 192)) (UInt8.ofNat (number % 64 + 128) :: rest) =
      (Char.ofNat number,rest) := by
  have lead : (UInt8.ofNat (number / 64 % 32 + 192)).toNat = number / 64 + 192 := by
    rw [UInt8.toNat_ofNat']
    omega
  have value : (number / 64 + 192) % 32 * 64 + number % 64 = number := by omega
  rw [first_of_two _ _ (by omega) (by omega),lead,trail_further_free,value,trail]

/-- That the number is no surrogate keeps the first further octet in the range that its lead octet leaves. -/
theorem first_encoded_three (large : 2047 < number) (small : number ≤ 65535)
    (plain : number < 0xD800 ∨ 0xDFFF < number) :
    first (UInt8.ofNat (number / 4096 % 16 + 224))
        (UInt8.ofNat (number / 64 % 64 + 128) :: UInt8.ofNat (number % 64 + 128) :: rest) =
      (Char.ofNat number,rest) := by
  have lead : (UInt8.ofNat (number / 4096 % 16 + 224)).toNat = number / 4096 + 224 := by
    rw [UInt8.toNat_ofNat']
    omega
  have value : ((number / 4096 + 224) % 16 * 64 + number / 64 % 64) * 64 + number % 64 = number := by omega
  rw [first_of_three _ _ (by omega) (by omega),lead,trail_further,trail_further_free,value,trail]
  · split
    · change 160 ≤ _
      omega
    · exact Nat.le_add_left _ _
  · split
    · change _ ≤ 159
      omega
    · change _ ≤ 191
      omega

/-- That the number is not too large does the same for the highest lead octet. -/
theorem first_encoded_four (large : 65535 < number) (small : number < 0x110000) :
    first (UInt8.ofNat (number / 262144 % 8 + 240)) (UInt8.ofNat (number / 4096 % 64 + 128) ::
        UInt8.ofNat (number / 64 % 64 + 128) :: UInt8.ofNat (number % 64 + 128) :: rest) =
      (Char.ofNat number,rest) := by
  have lead : (UInt8.ofNat (number / 262144 % 8 + 240)).toNat = number / 262144 + 240 := by
    rw [UInt8.toNat_ofNat']
    omega
  have value : (((number / 262144 + 240) % 8 * 64 + number / 4096 % 64) * 64 + number / 64 % 64) * 64 +
      number % 64 = number := by omega
  rw [first_of_four _ _ (by omega) (by omega),lead,trail_further,trail_further_free,trail_further_free,value,
    trail]
  · split
    · change 144 ≤ _
      omega
    · exact Nat.le_add_left _ _
  · split
    · change _ ≤ 143
      omega
    · change _ ≤ 191
      omega

end Encoded

theorem first_encodeChar (char : Char) (rest : Bytes) :
    ∃ lead more, String.utf8EncodeChar char ++ rest = lead :: more ∧ first lead more = (char,rest) := by
  have valid := valid_char char
  have back : Char.ofNat char.val.toNat = char := Char.ofNat_toNat char
  simp only [String.utf8EncodeChar]
  generalize char.val.toNat = number at *
  rw [← back]
  split
  · rename_i one
    exact ⟨_,_,rfl,first_encoded_one rest one⟩
  split
  · rename_i one two
    exact ⟨_,_,rfl,first_encoded_two rest (by omega) two⟩
  split
  · rename_i one two three
    exact ⟨_,_,rfl,first_encoded_three rest (by omega) three (by omega)⟩
  · rename_i one two three
    exact ⟨_,_,rfl,first_encoded_four rest (by omega) (by omega)⟩

theorem chars_encode (text : List Char) : chars (text.flatMap String.utf8EncodeChar) = text := by
  induction text with
  | nil => rw [List.flatMap_nil,chars]
  | cons char text ih =>
    obtain ⟨lead,more,octets,read⟩ := first_encodeChar char (text.flatMap String.utf8EncodeChar)
    rw [List.flatMap_cons,octets,chars,read,ih]

theorem decode_encode (text : String) : decode (encode text) = text := by
  rw [decode,encode_eq,chars_encode,String.ofList_toList]

/-- Only the character NUL has an octet of zero. -/
theorem zero_notMem_encode (text : String) (free : '\x00' ∉ text.toList) : 0 ∉ encode text := by
  rw [encode_eq,List.mem_flatMap]
  rintro ⟨char,there,zero⟩
  have valid := valid_char char
  have other : char.val.toNat ≠ 0 := by
    intro same
    apply free
    have nul : char = '\x00' := Char.ext (UInt32.toNat_inj.mp same)
    rwa [← nul]
  simp only [String.utf8EncodeChar] at zero
  generalize char.val.toNat = number at *
  have apart : ∀ octet, octet % 256 ≠ 0 → (0 : UInt8) ≠ UInt8.ofNat octet := by
    intro octet least same
    apply least
    rw [← UInt8.toNat_ofNat',← same]
    rfl
  split at zero
  · simp only [List.mem_singleton] at zero
    exact apart _ (by omega) zero
  split at zero
  · simp only [List.mem_cons,List.not_mem_nil,or_false] at zero
    rcases zero with zero | zero <;> exact apart _ (by omega) zero
  split at zero
  · simp only [List.mem_cons,List.not_mem_nil,or_false] at zero
    rcases zero with zero | zero | zero <;> exact apart _ (by omega) zero
  · simp only [List.mem_cons,List.not_mem_nil,or_false] at zero
    rcases zero with zero | zero | zero | zero <;> exact apart _ (by omega) zero

end Sctp.Text.Utf8
