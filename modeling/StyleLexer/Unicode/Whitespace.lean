import StyleLexer.Unicode.CodeRange

/-!
# Whitespace

The property White_Space of Unicode 17. Everything that asks whether a character
separates items asks `isWhitespace`; no other notion of blank is in use.
-/

namespace StyleLexer.Unicode

/-- The code points with the property White_Space, in ascending order. -/
def whitespaceRanges : List CodeRange := [
  ⟨0x0009, 0x000D⟩, ⟨0x0020, 0x0020⟩, ⟨0x0085, 0x0085⟩, ⟨0x00A0, 0x00A0⟩, ⟨0x1680, 0x1680⟩,
  ⟨0x2000, 0x200A⟩, ⟨0x2028, 0x2029⟩, ⟨0x202F, 0x202F⟩, ⟨0x205F, 0x205F⟩, ⟨0x3000, 0x3000⟩]

/-- The table is in order, so membership in it is membership in one of its ranges. -/
theorem whitespaceRanges_ascending : CodeRange.ascendingFrom 0 whitespaceRanges = true := by
  decide +kernel

/-- The character has the property White_Space. -/
def isWhitespace (c : Char) : Bool :=
  CodeRange.covers whitespaceRanges c.toNat

end StyleLexer.Unicode
