/-!
Text as bytes.

The bytes of a text are its UTF-8 encoding. Bytes that are no such encoding can still be shown: whatever
could be the start of a character but is cut short, and every byte that cannot start one, is shown as
one replacement character.
-/

namespace SchemaHistory

/-- A string of bytes. -/
abbrev Bytes := List UInt8

namespace Bytes

/-- The bytes of a text. -/
def ofString (s : String) : Bytes := s.toByteArray.data.toList

/-- The text with these bytes, if there is one. -/
def text? (b : Bytes) : Option String := String.fromUTF8? ⟨b.toArray⟩

/-- The bytes of a text are read back as that text. -/
theorem text?_ofString (s : String) : text? (ofString s) = some s := by
  have h : (⟨s.toByteArray.data⟩ : ByteArray).IsValidUTF8 := s.isValidUTF8
  rw [text?, ofString, Array.toArray_toList, String.fromUTF8?, dif_pos h]
  rfl

/-- What the first byte of a character says about the bytes behind it: how many there are, and between
which bounds the next one lies. -/
structure Lead where
  count : Nat
  low : Nat
  high : Nat

/-- A first byte that other bytes must follow. -/
def lead? (b : UInt8) : Option Lead :=
  let n := b.toNat
  if n < 0xC2 then none
  else if n ≤ 0xDF then some ⟨1, 0x80, 0xBF⟩
  else if n == 0xE0 then some ⟨2, 0xA0, 0xBF⟩
  else if n == 0xED then some ⟨2, 0x80, 0x9F⟩
  else if n ≤ 0xEF then some ⟨2, 0x80, 0xBF⟩
  else if n == 0xF0 then some ⟨3, 0x90, 0xBF⟩
  else if n ≤ 0xF3 then some ⟨3, 0x80, 0xBF⟩
  else if n == 0xF4 then some ⟨3, 0x80, 0x8F⟩
  else none

/-- How many bytes at the start of a list belong to the character whose first byte has been read. -/
def followers (lead : Lead) : Bytes → Nat
  | [] => 0
  | b :: rest =>
    if lead.count == 0 || b.toNat < lead.low || lead.high < b.toNat then 0
    else 1 + followers ⟨lead.count - 1, 0x80, 0xBF⟩ rest

/-- The character with the given bytes, the replacement character if there is none. -/
def shownChar (b : Bytes) : Char := ((text? b).bind (·.toList.head?)).getD (Char.ofNat 0xFFFD)

/-- The characters that show a list of at most `fuel` bytes. -/
def shownChars : (fuel : Nat) → Bytes → List Char
  | 0, _ => []
  | _, [] => []
  | fuel + 1, b :: rest =>
    let n := ((lead? b).map (followers · rest)).getD 0
    shownChar (b :: rest.take n) :: shownChars fuel (rest.drop n)

/-- The text that shows some bytes. -/
def shown (b : Bytes) : String := (text? b).getD (String.ofList (shownChars b.length b))

end Bytes

end SchemaHistory
