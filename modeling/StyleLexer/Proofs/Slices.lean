import StyleLexer.Location

/-!
# Slices of a text

Items name byte offsets. `Slice` ties them to the text: the part between two offsets that
both lie between characters. `Slice.bytes` says that these are the bytes of the UTF-8 form
between the offsets, and `eq_of_byteSize_eq` that an offset names one boundary only.
-/

namespace StyleLexer

/-- A string has as many bytes as the text in it. -/
theorem byteSize_toList (text : String) : byteSize text.toList = text.utf8ByteSize := by
  rw [← utf8ByteSize_ofList, String.ofList_toList]

/-- The end of a text is located by following the whole text. -/
theorem Location.locate_utf8ByteSize (text : String) :
    locate text.toList text.utf8ByteSize = origin.past text.toList := by
  have located := locate_byteSize text.toList []
  rwa [List.append_nil, byteSize_toList] at located

/-- The part of a text from one byte offset to another, both between characters. -/
def Slice (text : List Char) (left right : Nat) (part : List Char) : Prop :=
  ∃ before after, text = before ++ part ++ after ∧
    byteSize before = left ∧ left + byteSize part = right

namespace Slice

variable {text part : List Char} {left right : Nat}

/-- The part of a slice is a slice. -/
theorem middle {front back : List Char} (slice : Slice text left right (front ++ part ++ back)) :
    Slice text (left + byteSize front) (left + byteSize front + byteSize part) part := by
  obtain ⟨before, after, whole, start, size⟩ := slice
  refine ⟨before ++ front, back ++ after, ?_, ?_, rfl⟩
  · rw [whole]
    simp
  · rw [byteSize_append, start]

/-- A slice holds the bytes of the text between its offsets. -/
theorem bytes (slice : Slice text left right part) :
    (String.ofList text).toByteArray.extract left right = (String.ofList part).toByteArray := by
  obtain ⟨before, after, rfl, rfl, rfl⟩ := slice
  have front : (String.ofList before).toByteArray.size = byteSize before := by
    rw [String.size_toByteArray, utf8ByteSize_ofList]
  have inside : (String.ofList part).toByteArray.size = byteSize part := by
    rw [String.size_toByteArray, utf8ByteSize_ofList]
  have shifted := ByteArray.extract_append_size_add (a := (String.ofList before).toByteArray)
    (b := (String.ofList part).toByteArray ++ (String.ofList after).toByteArray) (i := 0)
    (j := byteSize part)
  rw [front, Nat.add_zero] at shifted
  rw [List.append_assoc, String.ofList_append, String.ofList_append, String.toByteArray_append,
    String.toByteArray_append, shifted, ByteArray.extract_append_eq_left inside.symm]

end Slice

/-- A text splits at an offset in one way. -/
theorem eq_of_byteSize_eq {front front' rest rest' : List Char}
    (whole : front ++ rest = front' ++ rest') (size : byteSize front = byteSize front') :
    front = front' := by
  rw [← Location.within_byteSize front rest, whole, size, Location.within_byteSize]

end StyleLexer
