import StyleLexer.Identifier
import StyleLexer.Quoted

/-!
# Categories of lexemes

The first character of a lexeme, in one case with the second, fixes how the lexeme is
read. The order of the tests in `Category.opening` matters only where it says so: a hash
opens an interpolation before it is a symbol.
-/

namespace StyleLexer

/-- The ways in which a lexeme can open. -/
inductive Category where
  | variableName
  | interpolation
  | quoted
  | number
  | directive
  | word
  | symbol
deriving DecidableEq, Repr

namespace Category

/-- The category of a lexeme that opens with `first` in front of `text`. Whatever opens
no other category is read as a symbol, and may then turn out to be none. -/
def opening (first : Char) (text : List Char) : Category :=
  if first = '$' then .variableName
  else if first = '#' ∧ text.head? = some '\x7b' then .interpolation
  else if Quoted.isQuote first then .quoted
  else if first.isDigit then .number
  else if first = '@' then .directive
  else if Identifier.isStart first then .word
  else .symbol

/-- Only a dollar sign opens a variable name. -/
theorem eq_of_opening_variableName {first : Char} {text : List Char}
    (opens : opening first text = .variableName) : first = '$' := by
  unfold opening at opens
  split at opens
  · assumption
  · (repeat' split at opens) <;> cases opens

/-- Only a hash and a brace open an interpolation. -/
theorem eq_of_opening_interpolation {first : Char} {text : List Char}
    (opens : opening first text = .interpolation) :
    first = '#' ∧ text.head? = some '\x7b' := by
  unfold opening at opens
  split at opens
  · cases opens
  · split at opens
    · assumption
    · (repeat' split at opens) <;> cases opens

/-- Only an at sign opens a directive. -/
theorem eq_of_opening_directive {first : Char} {text : List Char}
    (opens : opening first text = .directive) : first = '@' := by
  unfold opening at opens
  iterate 4
    split at opens
    · cases opens
  split at opens
  · assumption
  · split at opens <;> cases opens

/-- The category of the lexeme at the front of a text, unless the text is empty. -/
def ofText? : List Char → Option Category
  | [] => none
  | first :: text => some (opening first text)

end Category

end StyleLexer
