import HttpDispatch.Proofs.Text.Bytes
import HttpDispatch.Text.Percent

/-!
# Percent coding and its inverse

Decoding undoes encoding, and what is encoded holds no character that separates the parts of a
target.
-/

namespace HttpDispatch.Text

/-- A property of all bytes, checked one by one. -/
theorem forall_byte {P : UInt8 → Prop} (h : ∀ n < 256, P (UInt8.ofNat n)) (b : UInt8) :
  P b
  := by
  have hb := h b.toNat b.toNat_lt
  rwa [UInt8.ofNat_toNat] at hb

theorem hexByte?_hexDigit (b : UInt8) :
  hexByte? (hexDigit (b / 16)) = some (b / 16) ∧ hexByte? (hexDigit (b % 16)) = some (b % 16)
  := by
  apply forall_byte _ b
  decide +kernel

theorem isWordByte_hexDigit (b : UInt8) :
  isWordByte (hexDigit (b / 16)) ∧ isWordByte (hexDigit (b % 16))
  := by
  apply forall_byte _ b
  decide +kernel

theorem div_mul_add_mod (b : UInt8) :
  b / 16 * 16 + b % 16 = b
  := by
  apply forall_byte _ b
  decide +kernel

namespace Percent

theorem lt_of_isUnreserved {b : UInt8} :
  isUnreserved b → b.toNat < 128
  := by
  apply forall_byte _ b
  decide +kernel

theorem encodeBytes_cons (keep : UInt8 → Bool) (b : UInt8) (bs : Bytes) :
  encodeBytes keep (b :: bs)
    = (if keep b then [b] else [byteOf '%', hexDigit (b / 16), hexDigit (b % 16)])
      ++ encodeBytes keep bs
  := rfl

theorem decodeBytes_cons_of_ne {b : UInt8} (hb : b ≠ byteOf '%') (bs : Bytes) :
  decodeBytes (b :: bs) = b :: decodeBytes bs
  := by
  rw [decodeBytes.eq_def]
  simp only [if_neg hb]

theorem decodeBytes_triple (b : UInt8) (bs : Bytes) :
  decodeBytes (byteOf '%' :: hexDigit (b / 16) :: hexDigit (b % 16) :: bs) = b :: decodeBytes bs
  := by
  obtain ⟨hupper, hlower⟩ := hexByte?_hexDigit b
  rw [decodeBytes, if_pos rfl]
  simp only [hupper, hlower, div_mul_add_mod]

/-- Decoding undoes encoding, unless encoding keeps the percent sign. -/
theorem decodeBytes_encodeBytes {keep : UInt8 → Bool} (hkeep : keep (byteOf '%') = false)
    (bs : Bytes) :
  decodeBytes (encodeBytes keep bs) = bs
  := by
  induction bs with
  | nil => rfl
  | cons b bs ih =>
    rw [encodeBytes_cons]
    split
    · rename_i hb
      have hne : b ≠ byteOf '%' := by
        rintro rfl
        simp [hkeep] at hb
      rw [List.singleton_append, decodeBytes_cons_of_ne hne, ih]
    · apply (decodeBytes_triple b _).trans (congrArg _ ih)

/-- What is encoded is kept bytes, percent signs and digits. -/
theorem mem_encodeBytes {keep : UInt8 → Bool} {bs : Bytes} {b : UInt8}
    (h : b ∈ encodeBytes keep bs) :
  keep b ∨ b = byteOf '%' ∨ isWordByte b
  := by
  obtain ⟨a, -, hb⟩ := List.mem_flatMap.1 h
  obtain ⟨hupper, hlower⟩ := isWordByte_hexDigit a
  split at hb
  · obtain rfl := List.mem_singleton.1 hb
    left
    assumption
  · simp only [List.mem_cons, List.not_mem_nil, or_false] at hb
    rcases hb with rfl | rfl | rfl
    · exact .inr (.inl rfl)
    · exact .inr (.inr hupper)
    · exact .inr (.inr hlower)

theorem decodeBytes_eq_nil_iff {bs : Bytes} :
  decodeBytes bs = [] ↔ bs = []
  := by
  constructor
  · intro h
    rw [decodeBytes.eq_def] at h
    split at h
    · rfl
    · split at h
      · split at h
        · split at h <;> cases h
        · cases h
      · cases h
  · rintro rfl
    rfl

/-! ### Texts -/

theorem isUnreserved_or_eq {s : String} {b : UInt8} (h : b ∈ encodeBytes isUnreserved (utf8 s)) :
  isUnreserved b ∨ b = byteOf '%'
  := by
  rcases mem_encodeBytes h with hkept | hpercent | hword
  · exact .inl hkept
  · exact .inr hpercent
  · left
    simp [isUnreserved, hword]

/-- What is encoded is in ASCII. -/
theorem utf8_encode (s : String) :
  utf8 (encode s) = encodeBytes isUnreserved (utf8 s)
  := by
  apply utf8_ofList_map_charOf
  intro b hb
  rcases isUnreserved_or_eq hb with h | rfl
  · apply lt_of_isUnreserved h
  · decide

/-- Decoding gives back the text that was encoded. -/
theorem decode_encode (s : String) :
  decode (encode s) = some s
  := by
  rw [decode, utf8_encode, decodeBytes_encodeBytes rfl, ofUtf8?_utf8]

/-- Only the empty text is decoded to the empty text. -/
theorem decode_eq_empty_iff {s : String} :
  decode s = some "" ↔ s = ""
  := by
  rw [decode, ofUtf8?_eq_some_iff, eq_comm, ← utf8_eq_nil_iff, ← decodeBytes_eq_nil_iff]
  rfl

theorem encode_eq_empty_iff {s : String} :
  encode s = "" ↔ s = ""
  := by
  constructor
  · intro h
    have hs := decode_encode s
    rw [h] at hs
    apply (Option.some.inj hs).symm
  · rintro rfl
    rfl

/-- No reserved character but the percent sign is in what is encoded. -/
theorem notMem_encode {c : Char} (hc : isUnreserved (byteOf c) = false) (hpercent : c ≠ '%')
    (s : String) :
  c ∉ (encode s).toList
  := by
  intro h
  rw [encode, String.toList_ofList] at h
  obtain ⟨b, hb, rfl⟩ := List.mem_map.1 h
  rw [← charOf, byteOf_charOf] at hc
  rcases isUnreserved_or_eq hb with hb | rfl
  · simp [hc] at hb
  · apply hpercent rfl

end Percent

end HttpDispatch.Text
