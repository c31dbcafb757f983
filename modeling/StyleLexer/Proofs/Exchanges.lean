import StyleLexer.Proofs.Blanks
import StyleLexer.Proofs.Stretches

/-!
# Exchanging what stands behind a stretch

A stretch looks no further than at the one character behind it. So it stays a stretch in front
of every text that begins in the same way, and in front of every text that begins with a blank,
or is empty: neither joins a lexeme. `Exchangeable` is this condition, and
`Stretch.exchange` what follows from it.
-/

namespace StyleLexer

/-- The text is empty, or it begins with a blank. -/
def BlankFirst (text : List Char) : Prop :=
  ∀ c, text.head? = some c → Unicode.isWhitespace c = true

/-- The second text may take the place of the first behind any lexeme. -/
def Exchangeable (text text' : List Char) : Prop :=
  text.head? = text'.head? ∨ BlankFirst text'

theorem BlankFirst.nil : BlankFirst [] :=
  nofun

/-- Blanks with anything behind them begin with a blank, if there are any. -/
theorem BlankFirst.append {blanks : List Char} (nonempty : blanks ≠ [])
    (blank : ∀ c ∈ blanks, Unicode.isWhitespace c = true) (rest : List Char) :
    BlankFirst (blanks ++ rest) := by
  intro c head
  cases blanks with
  | nil => exact absurd rfl nonempty
  | cons d blanks =>
      obtain rfl : d = c := by simpa using head
      exact blank d List.mem_cons_self

/-- No other character stands first. -/
theorem BlankFirst.head?_ne {text : List Char} (blank : BlankFirst text) {c : Char}
    (dark : Unicode.isWhitespace c = false) : text.head? ≠ some c :=
  fun head => ne_of_isWhitespace (blank c head) dark rfl

/-- A blank makes no mark of a comment out of a slash in front of it. -/
theorem BlankFirst.noMark {text : List Char} (blank : BlankFirst text) (c : Char)
    (head : text.head? = some c) : c ≠ '*' ∧ c ≠ '/' :=
  ⟨ne_of_isWhitespace (blank c head) rfl, ne_of_isWhitespace (blank c head) rfl⟩

/-- What begins with a blank, or is empty, may also take its place behind some text. -/
theorem Exchangeable.behind {rest' : List Char} (blank : BlankFirst rest')
    (text rest : List Char) : Exchangeable (text ++ rest) (text ++ rest') := by
  cases text with
  | nil => exact .inr blank
  | cons c text => exact .inl rfl

namespace Lexeme

/-- A blank joins no lexeme, and no text at all joins none either. -/
theorem Fits.of_blankFirst {lexeme : Lexeme} {rest rest' : List Char} (fits : lexeme.Fits rest)
    (blank : BlankFirst rest') : lexeme.Fits rest' := by
  have stops : Identifier.StopsName rest' :=
    fun c head => Identifier.isPart_of_isWhitespace (blank c head)
  cases lexeme with
  | variableName name => exact ⟨fits.1, stops⟩
  | interpolation body => exact fits
  | quoted quote body => exact fits
  | number digits =>
      exact ⟨fits.1, fits.2.1, fun c head => isDigit_of_isWhitespace (blank c head)⟩
  | directive name => exact ⟨fits.1, stops⟩
  | word text => exact ⟨fits.1, fits.2.1, stops⟩
  | hashName name => exact ⟨fits.1, stops⟩
  | symbol c =>
      obtain ⟨mark, ⟨notDollar, _, others⟩, _⟩ := fits
      refine ⟨mark, ⟨notDollar, ?_, others⟩, fun _ => stops⟩
      rintro ⟨_, brace⟩
      cases blank _ brace

/-- Every lexeme meets a blank. -/
theorem Fits.meets {lexeme : Lexeme} {rest rest' : List Char} (fits : lexeme.Fits rest)
    (blank : BlankFirst rest') : lexeme.Meets rest' :=
  ⟨fits.of_blankFirst blank, fun _ => blank.noMark⟩

end Lexeme

/-- The marks of trivia are seen with no more of what is behind a text than its first
character. -/
theorem Trivia.opens_append_congr {text behind behind' : List Char} (nonempty : text ≠ [])
    (same : behind.head? = behind'.head?) (front : Option Char) :
    opens front (text ++ behind) = opens front (text ++ behind') := by
  match text, nonempty with
  | [c], _ => simp only [List.singleton_append, opens, same]
  | c :: d :: text, _ => rfl

namespace Stretch

variable {behind behind' before passed : List Char} {tokens : List Token}

/-- The lexeme of every token fits in front of some text. -/
theorem exists_fits_of_mem (stretch : Stretch behind before passed tokens) {token : Token}
    (member : token ∈ tokens) : ∃ rest, token.lexeme.Fits rest := by
  induction stretch with
  | empty => cases member
  | more _ _ fits _ inductionHypothesis =>
      rcases List.mem_cons.mp member with rfl | further
      · exact ⟨_, fits⟩
      · exact inductionHypothesis further

/-- A stretch looks at the first character behind it and no further. -/
theorem congr (stretch : Stretch behind before passed tokens)
    (same : behind.head? = behind'.head?) : Stretch behind' before passed tokens := by
  induction stretch with
  | empty => exact .empty
  | @more before trivia passed lexeme tokens run clear fits _ inductionHypothesis =>
      have sameBehind : (passed ++ behind).head? = (passed ++ behind').head? := by
        rw [List.head?_append, List.head?_append, same]
      have nonempty := Lexeme.source_ne_nil fits
      refine .more (run.congr rfl ?_) ?_ (fits.congr sameBehind) inductionHypothesis
      · exact head?_append_congr nonempty _ _
      · rwa [← Trivia.opens_append_congr nonempty sameBehind]

/-- A stretch remains one in front of every text that may take the place of the one behind
it. -/
theorem exchange (stretch : Stretch behind before passed tokens)
    (exchangeable : Exchangeable behind behind') : Stretch behind' before passed tokens := by
  rcases exchangeable with same | blank
  · exact stretch.congr same
  · apply stretch.replace
    intro token isLast
    obtain ⟨rest, fits⟩ := stretch.exists_fits_of_mem (List.mem_of_getLast? isLast)
    exact fits.meets blank

end Stretch

end StyleLexer
