import StyleLexer.Proofs.Stretches

/-!
# What stands in front of a lexeme

A hash and a brace always open an interpolation, so no lexeme begins right behind them.
`Fresh` is the invariant that carries this over trivia and over lexemes, and
`Stretch.standsIn_of_mem` is what follows for every token: a text between such marks and a
brace is the body of an interpolation, and no token of its own.
-/

namespace StyleLexer

/-- A boundary is not behind the marks that open an interpolation, and not between them. -/
structure Fresh (before after : List Char) : Prop where
  notBehind (front : List Char) : before ≠ front ++ ['#', '\x7b']
  notBetween : before.getLast? = some '#' → after.head? ≠ some '\x7b'

/-- A boundary behind any character other than those two marks is fresh. -/
theorem Fresh.of_getLast? {before : List Char} {c : Char} (isLast : before.getLast? = some c)
    (notHash : c ≠ '#') (notBrace : c ≠ '\x7b') (after : List Char) : Fresh before after := by
  constructor
  · rintro front rfl
    exact notBrace (by simpa using isLast.symm)
  · intro hash
    exact absurd (Option.some.inj (isLast.symm.trans hash)) notHash

namespace Trivia

/-- Trivia in front of a lexeme ends with a blank or with the slash of a comment. -/
theorem getLast?_of_run {rest trivia : List Char} {front : Option Char}
    (run : Run rest front trivia) (clear : opens (trivia.getLast?.or front) rest = false)
    (more : rest ≠ []) (nonempty : trivia ≠ []) :
    ∃ c, trivia.getLast? = some c ∧ (Unicode.isWhitespace c = true ∨ c = '/') := by
  induction run with
  | empty => exact absurd rfl nonempty
  | @more front element later fits run inductionHypothesis =>
      rw [List.getLast?_append] at clear ⊢
      rw [Option.or_assoc] at clear
      cases later with
      | cons c later =>
          obtain ⟨d, isLast, mark⟩ := inductionHypothesis clear (by simp)
          exact ⟨d, by rw [isLast]; rfl, mark⟩
      | nil =>
          cases element with
          | blank c => exact ⟨c, rfl, .inl fits⟩
          | blockComment body =>
              have split : Element.source (.blockComment body) =
                  ['/', '*'] ++ body ++ ['*'] ++ ['/'] := by simp [Element.source]
              refine ⟨'/', ?_, .inr rfl⟩
              rw [split, List.getLast?_concat]
              rfl
          | lineComment body =>
              obtain ⟨_, _, stop⟩ := fits
              rw [List.nil_append] at stop
              rcases stop with empty | feed
              · exact absurd empty more
              · obtain ⟨behind, rfl⟩ := List.head?_eq_some_iff.mp feed
                cases clear

end Trivia

/-- A name ends with a character that continues one. -/
theorem Identifier.IsName.exists_getLast? {name : List Char} (isName : IsName name) :
    ∃ c, name.getLast? = some c ∧ isPart c = true := by
  obtain ⟨nonempty, inside⟩ := isName
  exact ⟨_, List.getLast?_eq_some_getLast nonempty, inside _ (List.getLast_mem nonempty)⟩

/-- No lexeme other than a symbol ends with one of the two marks. -/
theorem Lexeme.getLast?_source {rest : List Char} {lexeme : Lexeme} (fits : lexeme.Fits rest) :
    (∃ c, lexeme = .symbol c) ∨
      ∃ c, lexeme.source.getLast? = some c ∧ c ≠ '#' ∧ c ≠ '\x7b' := by
  have ofPart {c : Char} (part : Identifier.isPart c = true) : c ≠ '#' ∧ c ≠ '\x7b' := by
    constructor
    · rintro rfl
      cases part
    · rintro rfl
      cases part
  have ofName {name : List Char} (first : Char) (isName : Identifier.IsName name) :
      ∃ c, (first :: name).getLast? = some c ∧ c ≠ '#' ∧ c ≠ '\x7b' := by
    obtain ⟨c, isLast, part⟩ := isName.exists_getLast?
    exact ⟨c, by rw [List.getLast?_cons, isLast]; rfl, ofPart part⟩
  cases lexeme with
  | symbol c => exact .inl ⟨c, rfl⟩
  | variableName name => exact .inr (ofName '$' fits.1)
  | directive name => exact .inr (ofName '@' fits.1)
  | hashName name => exact .inr (ofName '#' fits.1)
  | interpolation body =>
      exact .inr ⟨'\x7d', List.getLast?_concat, by decide, by decide⟩
  | quoted quote body =>
      refine .inr ⟨quote, List.getLast?_concat, ?_, ?_⟩
      · rintro rfl
        cases fits.1
      · rintro rfl
        cases fits.1
  | word text =>
      obtain ⟨c, isLast, part⟩ := fits.1.exists_getLast?
      exact .inr ⟨c, isLast, ofPart part⟩
  | number digits =>
      obtain ⟨nonempty, inside, _⟩ := fits
      have digit := inside _ (List.getLast_mem nonempty)
      exact .inr ⟨_, List.getLast?_eq_some_getLast nonempty,
        ofPart (Identifier.isPart_of_isDigit digit)⟩

namespace Fresh

/-- Trivia leads from one fresh boundary to another. -/
theorem trivia {before trivia rest : List Char} (fresh : Fresh before (trivia ++ rest))
    (run : Trivia.Run rest before.getLast? trivia)
    (clear : Trivia.opens (before ++ trivia).getLast? rest = false) (more : rest ≠ []) :
    Fresh (before ++ trivia) rest := by
  by_cases nonempty : trivia = []
  · subst nonempty
    rwa [List.append_nil]
  · rw [List.getLast?_append] at clear
    obtain ⟨c, isLast, mark⟩ := Trivia.getLast?_of_run run clear more nonempty
    refine of_getLast? (by rw [List.getLast?_append, isLast]; rfl) ?_ ?_ rest
    · rintro rfl
      rcases mark with blank | slash
      · cases blank
      · cases slash
    · rintro rfl
      rcases mark with blank | slash
      · cases blank
      · cases slash

/-- A lexeme leads from one fresh boundary to another. -/
theorem lexeme {before rest : List Char} {lexeme : Lexeme}
    (fresh : Fresh before (lexeme.source ++ rest)) (fits : lexeme.Fits rest) :
    Fresh (before ++ lexeme.source) rest := by
  rcases Lexeme.getLast?_source fits with ⟨c, rfl⟩ | ⟨c, isLast, notHash, notBrace⟩
  · constructor
    · intro front whole
      have split : before ++ [c] = (front ++ ['#']) ++ ['\x7b'] := by
        simpa [Lexeme.source] using whole
      obtain ⟨rfl, brace⟩ := List.append_inj' split rfl
      obtain rfl := (List.cons.inj brace).1
      exact fresh.notBetween (by simp) rfl
    · intro hash brace
      obtain rfl : c = '#' := by simpa [Lexeme.source] using hash
      exact fits.2.1.2.1 ⟨rfl, brace⟩
  · exact of_getLast? (by rw [List.getLast?_append, isLast]; rfl) notHash notBrace rest

end Fresh

/-- The token stands in the text where its offset says, begins at a fresh boundary, and fits in
front of what is behind it. -/
def Token.StandsIn (text : List Char) (token : Token) : Prop :=
  ∃ front rest, text = front ++ (token.lexeme.source ++ rest) ∧
    byteSize front = token.offset ∧ Fresh front (token.lexeme.source ++ rest) ∧
      token.lexeme.Fits rest

/-- Every token of a stretch stands in the text. -/
theorem Stretch.standsIn_of_mem {behind before passed : List Char} {tokens : List Token}
    (stretch : Stretch behind before passed tokens) (fresh : Fresh before (passed ++ behind))
    {token : Token} (member : token ∈ tokens) :
    token.StandsIn (before ++ passed ++ behind) := by
  induction stretch with
  | empty => cases member
  | @more before trivia passed lexeme tokens run clear fits _ inductionHypothesis =>
      have whole : trivia ++ lexeme.source ++ passed ++ behind =
          trivia ++ (lexeme.source ++ (passed ++ behind)) := by simp
      rw [whole] at fresh
      have inFront := fresh.trivia run clear (by simp [Lexeme.source_ne_nil fits])
      rcases List.mem_cons.mp member with rfl | further
      · exact ⟨before ++ trivia, passed ++ behind, by simp, rfl, inFront, fits⟩
      · simpa using inductionHypothesis (inFront.lexeme fits) further

end StyleLexer
