import StyleLexer.Proofs.LexemeShape
import StyleLexer.Unicode.Whitespace

/-!
# Blanks

A blank belongs to no lexeme: it opens none, and it ends every name and number. The tables
of Unicode decide this; `CodeRange.covers_eq_false_of_apart` reads it off two tables at once.
-/

namespace StyleLexer

namespace Unicode

/-- No range of one list meets a range of the other. -/
def CodeRange.apart (left right : List CodeRange) : Bool :=
  left.all fun range => right.all fun other =>
    decide (range.last < other.first) || decide (other.last < range.first)

/-- No point lies in both of two lists that are apart. -/
theorem CodeRange.covers_eq_false_of_apart {left right : List CodeRange} {point : Nat}
    (ascending : ascendingFrom 0 left = true) (ascending' : ascendingFrom 0 right = true)
    (apart : CodeRange.apart left right = true) (inside : covers left point = true) :
    covers right point = false := by
  apply Bool.eq_false_iff.mpr
  intro inside'
  obtain ⟨range, member, low, high⟩ := (covers_iff ascending point).mp inside
  obtain ⟨other, member', low', high'⟩ := (covers_iff ascending' point).mp inside'
  have disjoint := List.all_eq_true.mp (List.all_eq_true.mp apart range member) other member'
  simp only [Bool.or_eq_true, decide_eq_true_eq] at disjoint
  omega

variable {c : Char}

/-- A blank is no letter. -/
theorem isAlphabetic_of_isWhitespace (blank : isWhitespace c = true) : isAlphabetic c = false :=
  CodeRange.covers_eq_false_of_apart whitespaceRanges_ascending alphabeticRanges_ascending
    (by decide +kernel) blank

/-- A blank is no number. -/
theorem isNumeric_of_isWhitespace (blank : isWhitespace c = true) : isNumeric c = false :=
  CodeRange.covers_eq_false_of_apart whitespaceRanges_ascending numericRanges_ascending
    (by decide +kernel) blank

/-- A blank is no printable character of ASCII. -/
theorem toNat_of_isWhitespace (blank : isWhitespace c = true) :
    c.toNat < 0x21 ∨ 0x7E < c.toNat := by
  have outside : CodeRange.covers [⟨0x21, 0x7E⟩] c.toNat = false :=
    CodeRange.covers_eq_false_of_apart whitespaceRanges_ascending (by decide) (by decide) blank
  by_cases low : c.toNat < 0x21
  · exact .inl low
  · simp only [CodeRange.covers, low, if_false] at outside
    exact .inr (by simpa using outside)

end Unicode

/-- A quote is no blank. -/
theorem Quoted.isWhitespace_of_isQuote {c : Char} (opens : isQuote c = true) :
    Unicode.isWhitespace c = false := by
  obtain rfl | rfl := isQuote_iff.mp opens <;> rfl

section Blanks

variable {c : Char} (blank : Unicode.isWhitespace c = true)
include blank

/-- A character that is no blank is another one. -/
theorem ne_of_isWhitespace {d : Char} (dark : Unicode.isWhitespace d = false) : c ≠ d := by
  rintro rfl
  cases blank.symm.trans dark

/-- No name goes on with a blank. -/
theorem Identifier.isPart_of_isWhitespace : isPart c = false := by
  simp [isPart, Unicode.isAlphabetic_of_isWhitespace blank,
    Unicode.isNumeric_of_isWhitespace blank, ne_of_isWhitespace blank (d := '-') rfl,
    ne_of_isWhitespace blank (d := '_') rfl]

/-- A blank is no decimal digit. -/
theorem isDigit_of_isWhitespace : c.isDigit = false := by
  apply Bool.eq_false_iff.mpr
  intro digit
  cases (Identifier.isPart_of_isWhitespace blank).symm.trans (Identifier.isPart_of_isDigit digit)

/-- A blank is no symbol. -/
theorem Lexeme.isPunctuation_of_isWhitespace : isPunctuation c = false := by
  have outside := Unicode.toNat_of_isWhitespace blank
  apply Bool.eq_false_iff.mpr
  intro mark
  simp only [isPunctuation, Bool.or_eq_true, Bool.and_eq_true, decide_eq_true_eq] at mark
  omega

/-- A blank opens no other category, so that it is read as a symbol. -/
theorem Category.opening_of_isWhitespace (text : List Char) : opening c text = .symbol :=
  opening_eq_symbol (Unicode.isAlphabetic_of_isWhitespace blank) (isDigit_of_isWhitespace blank)
    (Lexeme.isPunctuation_of_isWhitespace blank) text

end Blanks

end StyleLexer
