/-!
# Texts as bytes

A text is stored as its UTF-8 bytes. Reading them back gives the text (`decode?_encode`), and bytes
that are not the UTF-8 form of any text are refused.
-/

namespace MembershipGrid

abbrev Bytes := List UInt8

namespace Text

def encode (text : String) : Bytes := text.toUTF8.data.toList

def decode? (bytes : Bytes) : Option String := String.fromUTF8? ⟨bytes.toArray⟩

theorem decode?_encode (text : String) : decode? (encode text) = some text := by
  have bytes : (⟨(encode text).toArray⟩ : ByteArray) = text.toUTF8 := by simp [encode]
  simp only [decode?, bytes, String.fromUTF8?, String.toUTF8_eq_toByteArray,
    dif_pos text.isValidUTF8]
  rfl

end Text

end MembershipGrid
