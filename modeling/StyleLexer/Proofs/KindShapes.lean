import StyleLexer.Proofs.Coverage
import StyleLexer.Proofs.Origins

/-!
# The shapes of kinds

`Kind.Shape` says for each kind how an item of it is written: which characters its value is made
of, and what has to stand right in front of the value and right behind it, so that it could be no
longer. `shape_of_mem_items` says that the items of every stream are written so, also where the
caller expects a category that the text does not have. That no item of punctuation is a letter,
a digit, a quote or a sign in front of a name follows from the category under which it was read.
-/

namespace StyleLexer

namespace Identifier

/-- A text that is one identifier: a name that begins with a letter or an underscore. -/
def IsWord (text : List Char) : Prop :=
  IsName text ∧ ∀ c, text.head? = some c → isStart c = true

/-- A sign with a name behind it that could be no longer. -/
def SignedName (sign : Char) (name value after : List Char) : Prop :=
  value = sign :: name ∧ IsName name ∧ StopsName after

end Identifier

/-- A body between two equal quotes. -/
def Quoted.Encloses (before body after : List Char) : Prop :=
  ∃ quote, isQuote quote = true ∧ Body quote body ∧ before.getLast? = some quote ∧
    after.head? = some quote

/-- A body between the braces of an interpolation. -/
def Interpolation.Encloses (before body after : List Char) : Prop :=
  Body body ∧ ['#', '\x7b'] <:+ before ∧ after.head? = some '\x7d'

open Identifier in
/-- How an item of each kind is written, with `before` in front of its value and `after` behind
it. -/
def Kind.Shape (before value after : List Char) : Kind → Prop
  | .declaration => ∃ name, SignedName '$' name value after
  | .reference =>
      (∃ name, SignedName '$' name value after) ∨ Interpolation.Encloses before value after
  | .commandColon => value = [':']
  | .command => IsWord value ∧ value ≠ "sprite".toList ∧ after.head? = some '('
  | .spriteCommand => value = "sprite".toList ∧ after.head? = some '('
  | .file => Quoted.Encloses before value after ∧ Literal.kind value = .file
  | .text =>
      IsWord value ∧ StopsName after ∧ after.head? ≠ some '(' ∨
      (∃ name, SignedName '@' name value after ∧ name ≠ "import".toList) ∨
      (∃ name, SignedName '#' name value after) ∨
      Quoted.Encloses before value after ∧ Literal.kind value = .text
  | .integer =>
      value ≠ [] ∧ (∀ c ∈ value, c.isDigit = true) ∧
        ∀ c, after.head? = some c → c.isDigit = false
  | .minus => value = ['-']
  | .importDirective => value = "@import".toList ∧ StopsName after
  | .openParen => value = ['(']
  | .closeParen => value = [')']
  | .openBracket => value = ['[']
  | .closeBracket => value = [']']
  | .punctuation =>
      ∃ c, value = [c] ∧ Lexeme.isPunctuation c = true ∧
        c ∉ ['-', '(', ')', '[', ']', '$', '@', '\x22', '\x27', '_'] ∧
        (c = '#' → StopsName after ∧ after.head? ≠ some '\x7b')
  | .endOfText => False
  | .failure => False

/-- The value of the item stands in the text at its offset, and is written as the kind of the item
says. -/
def Item.Shaped (text : List Char) (item : Item) : Prop :=
  ∃ before after, text = before ++ item.value.toList ++ after ∧ byteSize before = item.offset ∧
    item.kind.Shape before item.value.toList after

namespace Lexeme

variable {before rest : List Char} (place : Place) (behind : Cursor)

/-- A symbol is written as its kind says. -/
theorem shape_symbol {c : Char} (fits : (symbol c).Fits rest) :
    ((symbol c).kind place behind).Shape before [c] rest := by
  obtain ⟨mark, ⟨notDollar, notInterpolation, notQuote, _, notAt, notStart⟩, noName⟩ := fits
  have notUnderscore : c ≠ '_' := by
    rintro rfl
    cases notStart
  have notQuotes : ¬ (c = '\x22' ∨ c = '\x27') := by
    rw [← Quoted.isQuote_iff, notQuote]
    exact Bool.false_ne_true
  simp only [kind, symbolKind]
  split
  · rfl
  · rfl
  · rfl
  · rfl
  · rfl
  · split
    · rfl
    · exact ⟨':', rfl, rfl, by decide, fun hash => absurd hash (by decide)⟩
  · refine ⟨c, rfl, mark, by simp_all, ?_⟩
    exact fun hash => ⟨noName hash, fun brace => notInterpolation ⟨hash, brace⟩⟩

/-- A word is written as its kind says. -/
theorem shape_word {text : List Char} (fits : (word text).Fits rest) (followed : behind.rest = rest) :
    ((word text).kind place behind).Shape before text rest := by
  obtain ⟨isName, start, stop⟩ := fits
  simp only [kind, followed]
  split
  · rename_i parenthesis
    split
    · rename_i sprite
      exact ⟨sprite, parenthesis⟩
    · rename_i notSprite
      exact ⟨⟨isName, start⟩, notSprite, parenthesis⟩
  · rename_i noParenthesis
    exact .inl ⟨⟨isName, start⟩, stop, noParenthesis⟩

/-- A quoted literal is written as its kind says, whichever of the two it is. -/
theorem shape_literal {body after : List Char} (encloses : Quoted.Encloses before body after) :
    (Literal.kind body).Shape before body after := by
  by_cases file : Literal.namesFile body = true
  · have isFile : Literal.kind body = .file := if_pos file
    rw [isFile]
    exact ⟨encloses, isFile⟩
  · have isText : Literal.kind body = .text := if_neg file
    rw [isText]
    exact .inr (.inr (.inr ⟨encloses, isText⟩))

/-- The item of a lexeme is written as its kind says. -/
theorem shaped_item {lexeme : Lexeme} {start : Location} (fits : lexeme.Fits rest)
    (starts : start.offset = byteSize before) (followed : behind.rest = rest) :
    (lexeme.item place start behind).Shaped (before ++ lexeme.source ++ rest) := by
  -- Only a delimited lexeme has a part of its own text in front of its value and behind it.
  have bare (isBare : lexeme.value = lexeme.source) (noLead : lexeme.lead = 0)
      (shape : (lexeme.kind place behind).Shape before lexeme.source rest) :
      (lexeme.item place start behind).Shaped (before ++ lexeme.source ++ rest) := by
    refine ⟨before, rest, ?_, ?_, ?_⟩
    · simp [item, isBare]
    · simp [item, noLead, starts]
    · simpa [item, isBare] using shape
  cases lexeme with
  | variableName name =>
      refine bare rfl rfl ?_
      have signed : Identifier.SignedName '$' name ('$' :: name) rest := ⟨rfl, fits⟩
      simp only [kind]
      split
      · exact ⟨name, signed⟩
      · exact .inl ⟨name, signed⟩
  | interpolation body =>
      refine ⟨before ++ ['#', '\x7b'], '\x7d' :: rest, ?_, ?_, ?_⟩
      · simp [item, value, source]
      · simp [item, lead, starts]
        rfl
      · refine .inr ⟨?_, List.suffix_append _ _, rfl⟩
        simpa [item, value] using (show Interpolation.Body body from fits)
  | quoted quote body =>
      obtain ⟨opens, inside⟩ := fits
      have encloses : Quoted.Encloses (before ++ [quote]) body (quote :: rest) :=
        ⟨quote, opens, inside, by simp, rfl⟩
      refine ⟨before ++ [quote], quote :: rest, ?_, ?_, ?_⟩
      · simp [item, value, source]
      · simp [item, lead, starts, Quoted.utf8Size_of_isQuote opens]
      · simpa [item, value, kind] using shape_literal encloses
  | number digits =>
      refine bare rfl rfl ?_
      exact fits
  | directive name =>
      refine bare rfl rfl ?_
      obtain ⟨isName, stop⟩ := fits
      simp only [kind]
      split
      · rename_i isImport
        exact ⟨by rw [isImport]; rfl, stop⟩
      · rename_i notImport
        exact .inr (.inl ⟨name, ⟨rfl, isName, stop⟩, notImport⟩)
  | word text =>
      exact bare rfl rfl (shape_word place behind fits followed)
  | hashName name =>
      refine bare rfl rfl ?_
      exact .inr (.inr (.inl ⟨name, rfl, fits⟩))
  | symbol c =>
      exact bare rfl rfl (shape_symbol place behind fits)

end Lexeme

/-- Whatever a caller expects of a text, each item that does not end the stream is written as its
kind says. -/
theorem shape_of_mem_items {expected : Option Category} {text : String} {item : Item}
    (member : item ∈ (ItemStream.expecting expected text).items)
    (goesOn : item.kind.isEnding = false) : item.Shaped text.toList := by
  obtain ⟨scanner, started, atStart, _⟩ := ItemStream.exists_scanner_of_expecting expected text
  have stands := Cursor.standsIn_ofText text.toList
  rw [← atStart] at stands
  rw [started] at member
  obtain ⟨before, lexeme, rest, place, whole, fits, rfl⟩ :=
    ItemStream.exists_lexeme_of_mem_items stands member goesOn
  rw [whole]
  exact Lexeme.shaped_item place _ fits (Cursor.between_offset before rest) rfl

/-- The quoted pattern of a command call is written as a file. -/
theorem shape_of_quoted_pattern :
    ⟨.file, "*.png", 16, none⟩ ∈
        (ItemStream.expecting (some .variableName) "$a: sprite-map('*.png');").items ∧
      Kind.file.isEnding = false ∧
      Item.Shaped "$a: sprite-map('*.png');".toList ⟨.file, "*.png", 16, none⟩ := by
  have member : (⟨.file, "*.png", 16, none⟩ : Item) ∈
      (ItemStream.expecting (some .variableName) "$a: sprite-map('*.png');").items := by
    decide +kernel
  exact ⟨member, rfl, shape_of_mem_items member rfl⟩

end StyleLexer
