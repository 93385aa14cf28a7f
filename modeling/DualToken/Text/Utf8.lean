/-!
# Text as bytes

Tokens, keys, bodies and passwords are handled as lists of bytes; names and messages as text. The
passage between the two is UTF-8: `utf8` writes a text, `ofUtf8?` reads one and refuses bytes that
are not well formed, and reading gives back what was written (`ofUtf8?_utf8`).
-/

set_option autoImplicit false

namespace DualToken.Text

/-- The UTF-8 bytes of a list of characters. -/
def utf8Chars (characters : List Char) : List UInt8 :=
  characters.flatMap String.utf8EncodeChar

/-- The UTF-8 bytes of a text. -/
def utf8 (text : String) : List UInt8 :=
  utf8Chars text.toList

/-- The text with these UTF-8 bytes, if they are well formed. -/
def ofUtf8? (bytes : List UInt8) : Option String :=
  String.fromUTF8? ⟨bytes.toArray⟩

theorem utf8_eq_toByteArray (text : String) : utf8 text = text.toByteArray.data.toList := by
  have written : text.toByteArray = text.toList.utf8Encode := by
    rw [← String.toByteArray_ofList, String.ofList_toList]
  rw [written, utf8, utf8Chars, List.utf8Encode]
  simp

/-- Reading gives back the text that was written. -/
@[simp] theorem ofUtf8?_utf8 (text : String) : ofUtf8? (utf8 text) = some text := by
  rw [ofUtf8?, utf8_eq_toByteArray, Array.toArray_toList, String.fromUTF8?,
    dif_pos text.isValidUTF8]
  rfl

end DualToken.Text
