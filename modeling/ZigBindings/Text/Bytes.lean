/-!
# Text as bytes

The UTF-8 form of a text as a list of bytes, in both directions.
-/

namespace ZigBindings.Text

def utf8Bytes (text : List Char) : List UInt8 :=
  text.flatMap String.utf8EncodeChar

/-- The text that bytes spell, unless some of them are not UTF-8. -/
def ofUtf8? (bytes : List UInt8) : Option String :=
  String.fromUTF8? ⟨bytes.toArray⟩

theorem utf8Bytes_toList (text : String) : utf8Bytes text.toList = text.toByteArray.data.toList := by
  have encoded := String.toByteArray_ofList (l := text.toList)
  rw [String.ofList_toList] at encoded
  rw [encoded]
  exact List.toList_data_toByteArray.symm

theorem utf8Bytes_of_ofUtf8? {bytes : List UInt8} {text : String}
    (decoded : ofUtf8? bytes = some text) : utf8Bytes text.toList = bytes := by
  unfold ofUtf8? String.fromUTF8? at decoded
  split at decoded
  · cases decoded
    rw [utf8Bytes_toList]
    rfl
  · cases decoded

end ZigBindings.Text
