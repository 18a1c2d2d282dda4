import ExactInteger.Text.Lines

/-!
# Text as bytes

Text is stored in UTF-8.  Decoding accepts exactly what encoding produces
(`decode?_eq_some_iff`), and a byte sequence that is no encoding has no text.
Bytes that arrive line by line are cut after every line feed byte.
-/

namespace ExactInteger

/-- A sequence of bytes, as files and input streams hold it. -/
abbrev Bytes :=
  List UInt8

namespace Text

def encode (text : List Char) : Bytes :=
  text.flatMap String.utf8EncodeChar

/-- The text that a byte sequence encodes, if it encodes one. -/
def decode? (bytes : Bytes) : Option (List Char) :=
  (String.fromUTF8? bytes.toByteArray).map String.toList

def byteSegments (bytes : Bytes) : List Bytes :=
  splitAfter (· == 0x0A) bytes

def undecodableMessage : String :=
  "stream did not contain valid UTF-8"

@[simp]
theorem encode_nil : encode [] = [] :=
  rfl

@[simp]
theorem encode_append (first second : List Char) :
    encode (first ++ second) = encode first ++ encode second := by
  simp [encode]

/-- Decoding accepts exactly the encodings, each as the text it encodes. -/
theorem decode?_eq_some_iff {bytes : Bytes} {text : List Char} :
    decode? bytes = some text ↔ bytes = encode text := by
  have bytes_eq : ∀ characters : List Char,
      bytes = encode characters ↔
        bytes.toByteArray = characters.utf8Encode := by
    intro characters
    rw [List.utf8Encode, encode, List.toByteArray_inj]
  rw [bytes_eq, decode?, String.fromUTF8?]
  split
  next valid =>
    simp only [Option.map_some, Option.some.injEq]
    rw [← String.toList_ofList (l := text), String.toList_inj,
      ← String.toByteArray_inj, String.toByteArray_ofList,
      String.toList_ofList]
    rfl
  next invalid =>
    simp only [Option.map_none, reduceCtorEq, false_iff]
    intro encoded
    exact invalid (encoded ▸ ByteArray.isValidUTF8_utf8Encode)

@[simp]
theorem decode?_encode (text : List Char) : decode? (encode text) = some text :=
  decode?_eq_some_iff.mpr rfl

end Text

end ExactInteger
