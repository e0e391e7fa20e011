/-!
# How far a text extends

Places in a text are counted in bytes of its UTF-8 encoding, so that they can be used on the text
itself whatever characters it holds.
-/

namespace DiceCup.Text

/-- The number of bytes that the characters take in UTF-8. -/
def byteLength
    (text : List Char) :
    Nat :=
  text.foldr (fun char bytes => char.utf8Size + bytes) 0

@[simp]
theorem byteLength_nil :
    byteLength [] = 0 :=
  rfl

@[simp]
theorem byteLength_cons
    (first : Char)
    (rest : List Char) :
    byteLength (first :: rest) = first.utf8Size + byteLength rest :=
  rfl

@[simp]
theorem byteLength_append
    (left right : List Char) :
    byteLength (left ++ right) = byteLength left + byteLength right := by
  induction left with
  | nil => simp
  | cons first rest inductionHypothesis =>
    simp [inductionHypothesis, Nat.add_assoc]

/-- A text is cut in two where a kind of characters ends. -/
theorem byteLength_takeWhile_add_dropWhile
    (kind : Char → Bool)
    (text : List Char) :
    byteLength (text.takeWhile kind) + byteLength (text.dropWhile kind) = byteLength text := by
  rw [← byteLength_append, List.takeWhile_append_dropWhile]

/-- The bytes of the characters are the bytes of the string that they make. -/
theorem utf8ByteSize_ofList
    (text : List Char) :
    (String.ofList text).utf8ByteSize = byteLength text := by
  induction text with
  | nil => simp
  | cons first rest inductionHypothesis =>
    have parts :
        String.ofList (first :: rest) = String.singleton first ++ String.ofList rest := by
      apply String.toList_injective
      simp
    rw [parts, String.utf8ByteSize_append, String.utf8ByteSize_singleton,
      inductionHypothesis, byteLength_cons]

/-- The bytes of a string are the bytes of its characters. -/
theorem byteLength_toList
    (text : String) :
    byteLength text.toList = text.utf8ByteSize := by
  rw [← utf8ByteSize_ofList, String.ofList_toList]

end DiceCup.Text
