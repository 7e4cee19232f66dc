/-!
# Texts as bytes

`utf8` gives the bytes of a text, `ofUtf8?` the text of a list of bytes if they are well
formed.  Either undoes the other: `ofUtf8?_eq_some_iff`.
-/

namespace HttpDispatch

/-- A sequence of bytes, as it is read from and written to a connection. -/
abbrev Bytes := List UInt8

namespace Text

/-- The UTF-8 bytes of a text. -/
def utf8 (s : String) : Bytes := s.toByteArray.data.toList

/-- The text with the given UTF-8 bytes, if they are well formed. -/
def ofUtf8? (b : Bytes) : Option String := String.fromUTF8? ⟨b.toArray⟩

/-- The number of bytes that characters take. -/
def byteLength (cs : List Char) : Nat := cs.foldl (fun n c => n + c.utf8Size) 0

theorem ofUtf8?_utf8 (s : String) :
  ofUtf8? (utf8 s) = some s
  := by
  have h : (⟨(utf8 s).toArray⟩ : ByteArray) = s.toByteArray := by simp [utf8]
  rw [ofUtf8?, h, String.fromUTF8?, dif_pos s.isValidUTF8]
  rfl

theorem utf8_of_ofUtf8? {b : Bytes} {s : String} (h : ofUtf8? b = some s) :
  utf8 s = b
  := by
  rw [ofUtf8?, String.fromUTF8?] at h
  split at h
  · obtain rfl := Option.some.inj h
    simp [utf8, String.fromUTF8]
  · exact nomatch h

theorem ofUtf8?_eq_some_iff {b : Bytes} {s : String} :
  ofUtf8? b = some s ↔ utf8 s = b
  := ⟨utf8_of_ofUtf8?, fun h => h ▸ ofUtf8?_utf8 s⟩

/-- The byte of an ASCII character; a character beyond ASCII loses its upper bits. -/
def byteOf (c : Char) : UInt8 := c.toNat.toUInt8

/-- Whether the byte is that of an ASCII letter or digit. -/
def isWordByte (b : UInt8) : Bool :=
  ('0'.toNat.toUInt8 ≤ b && b ≤ '9'.toNat.toUInt8)
    || ('A'.toNat.toUInt8 ≤ b && b ≤ 'Z'.toNat.toUInt8)
    || ('a'.toNat.toUInt8 ≤ b && b ≤ 'z'.toNat.toUInt8)

end Text

end HttpDispatch
