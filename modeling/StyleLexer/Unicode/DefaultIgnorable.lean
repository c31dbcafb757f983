import StyleLexer.Unicode.CodeRange

/-!
# Default ignorable characters

The property Default_Ignorable_Code_Point of Unicode 17: characters that are left out of
what is shown wherever nothing supports them. The fillers of Hangul are letters and
ignorable at once, so no general category tells them apart from visible letters.
-/

namespace StyleLexer.Unicode

/-- The code points with the property Default_Ignorable_Code_Point, in ascending order. -/
def defaultIgnorableRanges : List CodeRange := [
  ⟨0x00AD, 0x00AD⟩, ⟨0x034F, 0x034F⟩, ⟨0x061C, 0x061C⟩, ⟨0x115F, 0x1160⟩, ⟨0x17B4, 0x17B5⟩,
  ⟨0x180B, 0x180F⟩, ⟨0x200B, 0x200F⟩, ⟨0x202A, 0x202E⟩, ⟨0x2060, 0x206F⟩, ⟨0x3164, 0x3164⟩,
  ⟨0xFE00, 0xFE0F⟩, ⟨0xFEFF, 0xFEFF⟩, ⟨0xFFA0, 0xFFA0⟩, ⟨0xFFF0, 0xFFF8⟩,
  ⟨0x1BCA0, 0x1BCA3⟩, ⟨0x1D173, 0x1D17A⟩, ⟨0xE0000, 0xE0FFF⟩]

/-- The table is in order, so membership in it is membership in one of its ranges. -/
theorem defaultIgnorableRanges_ascending :
    CodeRange.ascendingFrom 0 defaultIgnorableRanges = true := by
  decide +kernel

/-- The character has the property Default_Ignorable_Code_Point. -/
def isDefaultIgnorable (c : Char) : Bool :=
  CodeRange.covers defaultIgnorableRanges c.toNat

end StyleLexer.Unicode
