import HttpDispatch.Text.Bytes
import Mathlib.Data.List.Basic

/-!
# The bytes of a text

The bytes of a text are those of its characters in a row.  The bytes below 128 stand for the ASCII
characters of the text and for nothing else.
-/

namespace HttpDispatch.Text

/-- A text is its characters, one after the other. -/
theorem utf8_ofList (cs : List Char) :
  utf8 (String.ofList cs) = cs.flatMap String.utf8EncodeChar
  := by
  rw [utf8, String.toByteArray_ofList, List.utf8Encode, List.toList_data_toByteArray]

theorem utf8_eq_flatMap (s : String) :
  utf8 s = s.toList.flatMap String.utf8EncodeChar
  := by
  rw [← utf8_ofList, String.ofList_toList]

theorem utf8_append (s t : String) :
  utf8 (s ++ t) = utf8 s ++ utf8 t
  := by
  rw [utf8_eq_flatMap, utf8_eq_flatMap, utf8_eq_flatMap, String.toList_append, List.flatMap_append]

theorem utf8_inj {s t : String} :
  utf8 s = utf8 t ↔ s = t
  := by
  constructor
  · intro h
    apply Option.some.inj
    rw [← ofUtf8?_utf8 s, h, ofUtf8?_utf8]
  · rintro rfl
    rfl

theorem utf8_eq_nil_iff {s : String} :
  utf8 s = [] ↔ s = ""
  := utf8_inj (t := "")

/-! ### ASCII -/

/-- The character that a byte below 128 stands for. -/
def charOf (b : UInt8) : Char := Char.ofNat b.toNat

theorem toNat_charOf (b : UInt8) :
  (charOf b).toNat = b.toNat
  := by
  have hb : b.toNat < 256 := b.toNat_lt
  have hvalid : b.toNat.isValidChar := by
    left
    omega
  rw [charOf, Char.ofNat, dif_pos hvalid]
  rfl

theorem byteOf_charOf (b : UInt8) :
  byteOf (charOf b) = b
  := by
  rw [byteOf, toNat_charOf]
  apply UInt8.ofNat_toNat

theorem charOf_byteOf {c : Char} (hc : c.toNat < 128) :
  charOf (byteOf c) = c
  := by
  rw [charOf, byteOf, UInt8.toNat_ofNat', Nat.mod_eq_of_lt (by omega), Char.ofNat_toNat]

theorem utf8EncodeChar_of_lt {c : Char} (hc : c.toNat < 128) :
  String.utf8EncodeChar c = [byteOf c]
  := by
  have hc : c.val.toNat ≤ 0x7f := Nat.le_of_lt_succ hc
  simp only [String.utf8EncodeChar, hc, if_true]
  rfl

/-- All bytes of a character beyond ASCII are. -/
theorem le_of_mem_utf8EncodeChar {c : Char} (hc : 128 ≤ c.toNat) {b : UInt8}
    (hb : b ∈ String.utf8EncodeChar c) :
  128 ≤ b.toNat
  := by
  have hc : ¬ c.val.toNat ≤ 0x7f := Nat.not_le_of_lt hc
  simp only [String.utf8EncodeChar, hc, if_false] at hb
  split at hb
  · simp only [List.mem_cons, List.not_mem_nil, or_false] at hb
    rcases hb with rfl | rfl <;> simp only [UInt8.toNat_ofNat'] <;> omega
  · split at hb
    · simp only [List.mem_cons, List.not_mem_nil, or_false] at hb
      rcases hb with rfl | rfl | rfl <;> simp only [UInt8.toNat_ofNat'] <;> omega
    · simp only [List.mem_cons, List.not_mem_nil, or_false] at hb
      rcases hb with rfl | rfl | rfl | rfl <;> simp only [UInt8.toNat_ofNat'] <;> omega

/-- Exactly the ASCII characters of a text have a byte below 128. -/
theorem byteOf_mem_utf8_iff {s : String} {c : Char} (hc : c.toNat < 128) :
  byteOf c ∈ utf8 s ↔ c ∈ s.toList
  := by
  rw [utf8_eq_flatMap, List.mem_flatMap]
  constructor
  · rintro ⟨d, hd, hb⟩
    by_cases hascii : d.toNat < 128
    · rw [utf8EncodeChar_of_lt hascii, List.mem_singleton] at hb
      rwa [← charOf_byteOf hc, hb, charOf_byteOf hascii]
    · have hle := le_of_mem_utf8EncodeChar (Nat.le_of_not_lt hascii) hb
      rw [byteOf, UInt8.toNat_ofNat'] at hle
      omega
  · intro h
    use c, h
    rw [utf8EncodeChar_of_lt hc]
    apply List.mem_singleton_self

/-- A text of ASCII characters has one byte for each. -/
theorem utf8_ofList_of_lt {cs : List Char} (h : ∀ c ∈ cs, c.toNat < 128) :
  utf8 (String.ofList cs) = cs.map byteOf
  := by
  rw [utf8_ofList]
  induction cs with
  | nil => rfl
  | cons c cs ih =>
    rw [List.forall_mem_cons] at h
    rw [List.flatMap_cons, utf8EncodeChar_of_lt h.1, ih h.2]
    rfl

theorem utf8_ofList_map_charOf {bs : Bytes} (h : ∀ b ∈ bs, b.toNat < 128) :
  utf8 (String.ofList (bs.map charOf)) = bs
  := by
  have hascii : ∀ c ∈ bs.map charOf, c.toNat < 128 := by
    intro c hc
    obtain ⟨b, hb, rfl⟩ := List.mem_map.1 hc
    rw [toNat_charOf]
    apply h b hb
  have hid : byteOf ∘ charOf = id := by
    funext b
    apply byteOf_charOf
  rw [utf8_ofList_of_lt hascii, List.map_map, hid, List.map_id]

/-- ASCII characters take one byte each. -/
theorem byteLength_of_lt {cs : List Char} (h : ∀ c ∈ cs, c.toNat < 128) :
  byteLength cs = cs.length
  := by
  have hstart : ∀ n, cs.foldl (fun n c => n + c.utf8Size) n = n + cs.length := by
    induction cs with
    | nil =>
      intro n
      rfl
    | cons c cs ih =>
      intro n
      rw [List.forall_mem_cons] at h
      have hsize : c.utf8Size = 1 := by
        have hc : c.val.toNat < 128 := h.1
        apply Char.utf8Size_eq_one_iff.2
        apply UInt32.le_iff_toNat_le.2 (Nat.le_of_lt_succ hc)
      rw [List.foldl_cons, ih h.2, hsize, List.length_cons, Nat.add_assoc, Nat.add_comm 1]
  rw [byteLength, hstart, Nat.zero_add]

/-! ### Decimals -/

theorem isDigit_of_mem_toString {n : ℕ} {c : Char} (h : c ∈ (toString n).toList) :
  c.isDigit = true
  := by
  rw [Nat.toString_eq_ofList_toDigits, String.toList_ofList] at h
  apply Nat.isDigit_of_mem_toDigits (by decide) (by decide) h

end HttpDispatch.Text
