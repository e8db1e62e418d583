/-
# Text as bytes

The bytes of a text are its characters in UTF-8, one after another. Names, keys and tokens are
compared and signed as bytes, while the rest of the library works on characters, so both
directions are needed: `utf8` writes the bytes of a list of characters and `ofUtf8?` reads them
back, refusing every sequence that is not the UTF-8 of some text. Main statement:
`ofUtf8?_utf8`, reading undoes writing.
-/

namespace Paging
namespace Text

/-- The UTF-8 bytes of a list of characters. -/
def utf8 (text : List Char) : List UInt8 :=
  text.flatMap String.utf8EncodeChar

/-- The characters whose UTF-8 is `bytes`; `none` when `bytes` is the UTF-8 of no text. -/
def ofUtf8? (bytes : List UInt8) : Option (List Char) :=
  (ByteArray.mk bytes.toArray).utf8Decode?.map Array.toList

/-- The UTF-8 bytes of a string. -/
def bytes (s : String) : List UInt8 :=
  utf8 s.toList

/-- The string with the given UTF-8 bytes, if there is one. -/
def ofBytes? (bytes : List UInt8) : Option String :=
  (ofUtf8? bytes).map String.ofList

/-- The text of bytes below 128, one character each. -/
def ofAscii (bytes : List UInt8) : String :=
  String.ofList (bytes.map fun b => Char.ofNat b.toNat)

/-- No characters take no bytes. -/
@[simp] theorem utf8_nil : utf8 [] = [] := rfl

/-- The bytes of a character come before those of the text behind it. -/
@[simp] theorem utf8_cons (c : Char) (text : List Char) :
    utf8 (c :: text) = String.utf8EncodeChar c ++ utf8 text := rfl

/-- The bytes of a text come before those of the text behind it. -/
@[simp] theorem utf8_append (a b : List Char) : utf8 (a ++ b) = utf8 a ++ utf8 b := by
  simp [utf8]

/-- **Reading the bytes of a text gives the text back.** -/
@[simp] theorem ofUtf8?_utf8 (text : List Char) : ofUtf8? (utf8 text) = some text := by
  have h : ByteArray.mk (utf8 text).toArray = text.utf8Encode := by
    apply ByteArray.ext
    simp [List.utf8Encode, utf8]
  simp [ofUtf8?, h]

/-- A string is read back from its bytes. -/
@[simp] theorem ofBytes?_bytes (s : String) : ofBytes? (bytes s) = some s := by
  simp [ofBytes?, bytes]

end Text
end Paging
