import Mathlib.Control.Monad.Basic
import StyleLexer.Proofs.Readings
import StyleLexer.Proofs.Slices
import StyleLexer.Proofs.TokenLists

/-!
# Reading statement by statement

A text may be cut right behind a mark that ends a statement, or behind a byte order mark:
what stands behind the cut is read as if it were a text of its own. `Reading.append` puts
the two readings together, and `items_append_of_endsStatement` is what follows for the items
and for the location of a fault.
-/

namespace StyleLexer

namespace Location

/-- The location in a text of what is at `location` in the text behind `base`. -/
def behind (base location : Location) : Location where
  offset := base.offset + location.offset
  line := base.line + location.line - 1
  column :=
    if location.line = 1 then base.column + location.column - 1 else location.column

/-- Lines and columns start at one. -/
def Positive (location : Location) : Prop :=
  0 < location.line ∧ 0 < location.column

theorem Positive.advance {location : Location} (positive : location.Positive) (c : Char) :
    (location.advance c).Positive := by
  obtain ⟨line, column⟩ := positive
  unfold Location.advance Positive
  split
  · exact ⟨Nat.succ_pos _, Nat.one_pos⟩
  · exact ⟨line, Nat.succ_pos _⟩

theorem behind_advance (base : Location) {location : Location} (positive : location.Positive)
    (c : Char) : (base.behind location).advance c = base.behind (location.advance c) := by
  obtain ⟨line, column⟩ := positive
  unfold advance behind
  split
  · simp only [Location.mk.injEq]
    refine ⟨?_, ?_, ?_⟩
    · omega
    · omega
    · rw [if_neg (by omega)]
  · by_cases first : location.line = 1
    · simp only [first, if_true, Location.mk.injEq]
      refine ⟨?_, trivial, ?_⟩
      · omega
      · omega
    · simp only [first, if_false, Location.mk.injEq]
      refine ⟨?_, trivial, trivial⟩
      omega

/-- Going on from `base` reaches what the same text reaches from the start, behind
`base`. -/
theorem past_eq_behind (base : Location) (text : List Char) :
    base.past text = base.behind (origin.past text) := by
  have general (location : Location) (positive : location.Positive) :
      (base.behind location).past text = base.behind (location.past text) := by
    induction text generalizing location with
    | nil => rfl
    | cons c text inductionHypothesis =>
        rw [past_cons, past_cons, behind_advance base positive]
        exact inductionHypothesis _ (positive.advance c)
  have start : base.behind origin = base := by
    simp [behind, origin]
  rw [← general origin ⟨Nat.one_pos, Nat.one_pos⟩, start]

end Location

/-- The items that end a statement are those of the symbols that do. -/
theorem Token.exists_of_endsStatement {token : Token} {place : Place} {later : List Token}
    (ends : (token.item place later).endsStatement = true) :
    ∃ c ∈ statementMarks, token.lexeme = .symbol c := by
  simp only [Item.endsStatement, item, Bool.and_eq_true, beq_iff_eq, List.any_eq_true] at ends
  obtain ⟨punctuation, mark, isMark, value⟩ := ends
  obtain ⟨c, lexeme⟩ := exists_of_kind_eq_punctuation _ _ _ punctuation
  rw [lexeme] at value
  have chars := congrArg String.toList value
  obtain rfl : c = mark := by simpa [Lexeme.value, Lexeme.source] using chars
  exact ⟨c, isMark, lexeme⟩

section StatementMarks

variable {c : Char} (mark : c ∈ statementMarks)
include mark

theorem eq_of_mem_statementMarks : c = ';' ∨ c = '\x7b' ∨ c = '\x7d' := by
  simpa [statementMarks] using mark

theorem ne_colon_of_mem_statementMarks : c ≠ ':' := by
  rcases eq_of_mem_statementMarks mark with rfl | rfl | rfl <;> decide

theorem utf8Size_of_mem_statementMarks : c.utf8Size = 1 := by
  rcases eq_of_mem_statementMarks mark with rfl | rfl | rfl <;> rfl

/-- A line comment may open behind each of the marks. -/
theorem opensLineComment_of_mem_statementMarks : Trivia.opensLineComment (some c) = true := by
  rcases eq_of_mem_statementMarks mark with rfl | rfl | rfl <;> decide

/-- The marks are read in front of every text. -/
theorem Lexeme.meets_of_mem_statementMarks (rest : List Char) : (symbol c).Meets rest := by
  have alone : standsAlone c = true := by
    rcases eq_of_mem_statementMarks mark with rfl | rfl | rfl <;> decide
  have notSlash : c ≠ '/' := by
    rcases eq_of_mem_statementMarks mark with rfl | rfl | rfl <;> decide
  refine ⟨fits_of_standsAlone alone rest, ?_⟩
  intro slash
  exact absurd (List.cons.inj slash).1 notSlash

end StatementMarks

/-- The text has these tokens behind its byte order mark, and what stands behind it is read
like the start of a text. -/
structure Complete (text passed : List Char) (tokens : List Token) : Prop where
  whole : text = leadingMark text ++ passed
  nonempty : text ≠ []
  stretch (rest : List Char) : Stretch rest (leadingMark text) passed tokens
  separated : Token.Separated tokens
  opensLineComment : Trivia.opensLineComment text.getLast? = true
  behind : Place.behind .initial (Token.items .initial tokens) = .initial

namespace Complete

/-- A byte order mark is complete, without tokens. -/
theorem byteOrderMark : Complete ['\ufeff'] [] [] where
  whole := rfl
  nonempty := List.cons_ne_nil _ _
  stretch _ := .empty
  separated _ isLast := nomatch isLast
  opensLineComment := rfl
  behind := rfl

/-- A text that reading leaves right behind the end of a statement is complete. -/
theorem of_symbol {text passed behind : List Char} {tokens : List Token} {token : Token}
    {last : Item} {c : Char} (whole : text = leadingMark text ++ passed)
    (stretch : Stretch behind (leadingMark text) passed tokens)
    (isLastToken : tokens.getLast? = some token) (lexeme : token.lexeme = .symbol c)
    (mark : c ∈ statementMarks) (isLast : (Token.items .initial tokens).getLast? = some last)
    (ends : last.endsStatement = true) : Complete text passed tokens := by
  obtain ⟨front, isFront, _⟩ := stretch.exists_of_getLast? isLastToken
  rw [lexeme, Lexeme.source] at isFront
  constructor
  · exact whole
  · rw [whole, isFront]
    simp
  · intro rest
    apply stretch.replace
    intro other isOther
    obtain rfl := Option.some.inj (isLastToken.symm.trans isOther)
    rw [lexeme]
    exact Lexeme.meets_of_mem_statementMarks mark rest
  · intro other isOther
    obtain rfl := Option.some.inj (isLastToken.symm.trans isOther)
    exact ⟨c, lexeme, ne_colon_of_mem_statementMarks mark⟩
  · rw [whole, isFront, ← List.append_assoc, List.getLast?_concat]
    exact opensLineComment_of_mem_statementMarks mark
  · exact Place.behind_of_endsStatement isLast ends .initial

end Complete

/-- The reading of a text goes on behind a complete one. -/
theorem Reading.append {first second passed passed' trivia rest : List Char}
    {tokens tokens' : List Token} {cause : Option Cause} (complete : Complete first passed tokens)
    (unmarked : leadingMark second = [])
    (reading : Reading second passed' trivia rest tokens' cause) :
    Reading (first ++ second) (passed ++ passed') trivia rest
      (tokens ++ tokens'.map (Token.shift (byteSize first))) cause := by
  have mark : leadingMark (first ++ second) = leadingMark first := by
    cases first with
    | nil => exact absurd rfl complete.nonempty
    | cons c first =>
        unfold leadingMark
        split <;> simp_all
  have same : Trivia.opensLineComment ([] : List Char).getLast? =
      Trivia.opensLineComment first.getLast? := complete.opensLineComment.symm
  obtain ⟨whole, stretch, run, ends, stops⟩ := reading
  simp only [unmarked, List.nil_append] at whole stretch run ends stops
  have front : leadingMark (first ++ second) ++ (passed ++ passed') = first ++ passed' := by
    rw [mark, ← List.append_assoc, ← complete.whole]
  have samePassed := Trivia.opensLineComment_append same passed'
  have sameTrivia := Trivia.opensLineComment_append same (passed' ++ trivia)
  rw [List.nil_append] at samePassed sameTrivia
  constructor
  · rw [front, List.append_assoc, ← whole]
  · obtain ⟨relative, isShift, moved⟩ := stretch.exists_relative
    have atStart : tokens' = relative := by
      rw [isShift]
      simp
    subst atStart
    rw [mark]
    refine (complete.stretch _).append ?_
    rw [← complete.whole]
    exact moved first same
  · rw [front]
    exact run.congr samePassed rfl
  · rw [front, List.append_assoc, ← Trivia.first?_congr sameTrivia]
    exact ends
  · rw [front]
    exact stops

/-- Reading the text gives these items, and it stops right behind a mark that ends a
statement. A byte order mark alone counts as such a text. -/
def EndsStatement (text : String) (found : List Item) : Prop :=
  text = "\ufeff" ∧ found = [] ∨
    items text = .ok found ∧ ∃ last, found.getLast? = some last ∧ last.endsStatement = true ∧
      last.offset + 1 = text.utf8ByteSize

/-- A text that ends a statement is complete. -/
theorem exists_complete {text : String} {found : List Item} (ends : EndsStatement text found) :
    ∃ passed tokens, Complete text.toList passed tokens ∧
      Token.items .initial tokens = found := by
  rcases ends with ⟨rfl, rfl⟩ | ⟨ok, last, isLast, endsStatement, size⟩
  · exact ⟨[], [], .byteOrderMark, rfl⟩
  · obtain ⟨passed, trivia, rest, tokens, cause, reading⟩ := exists_reading text.toList
    rw [reading.outcome_eq] at ok
    cases cause with
    | some cause => cases ok
    | none =>
        have atEnd : rest = [] := Cursor.finding_eq_stop_none_iff.mp reading.stops
        obtain rfl := Except.ok.inj ok
        obtain ⟨token, place, isLastToken, rfl⟩ := Token.exists_of_getLast?_items isLast
        obtain ⟨c, mark, lexeme⟩ := Token.exists_of_endsStatement endsStatement
        obtain ⟨front, isFront, offset⟩ := reading.stretch.exists_of_getLast? isLastToken
        have whole := reading.whole
        -- the last token is one byte long and ends with the text
        have noTrivia : trivia = [] := by
          have oneByte := utf8Size_of_mem_statementMarks mark
          have sizes := congrArg byteSize whole
          rw [byteSize_toList, ← size, isFront, atEnd] at sizes
          simp only [Token.item, lexeme, Lexeme.lead, Lexeme.source, byteSize_append,
            byteSize_cons, byteSize_nil, offset] at sizes
          apply byteSize_eq_zero_iff.mp
          omega
        rw [noTrivia, atEnd, List.append_nil, List.append_nil] at whole
        exact ⟨passed, tokens, .of_symbol whole reading.stretch isLastToken lexeme mark isLast
          endsStatement, rfl⟩

/-- What stands behind the end of a statement is read as if it were a text of its own. -/
theorem items_append_of_endsStatement {first : String} {found : List Item}
    (ends : EndsStatement first found) (second : String)
    (unmarked : second.toList.head? ≠ some '\ufeff') :
    items (first ++ second) =
      match items second with
      | .ok later => .ok (found ++ later.map (Item.shift first.utf8ByteSize))
      | .error fault => .error
          { cause := fault.cause
            location := (Location.locate first.toList first.utf8ByteSize).behind
              fault.location } := by
  obtain ⟨passed, tokens, complete, rfl⟩ := exists_complete ends
  obtain ⟨passed', trivia, rest, tokens', cause, reading⟩ := exists_reading second.toList
  have together := Reading.append complete (leadingMark_of_head? unmarked) reading
  rw [← String.toList_append] at together
  have tokenItems := Token.items_append (tokens'.map (Token.shift (byteSize first.toList)))
    complete.separated .initial
  rw [complete.behind, Token.items_shift, byteSize_toList] at tokenItems
  have front : leadingMark (first ++ second).toList ++ (passed ++ passed') =
      first.toList ++ (leadingMark second.toList ++ passed') := by
    have whole := together.whole
    rw [String.toList_append] at whole ⊢
    have cut := whole.symm.trans (congrArg (first.toList ++ ·) reading.whole)
    apply List.append_cancel_right
    rw [cut]
    exact (List.append_assoc _ _ _).symm
  rw [reading.outcome_eq, together.outcome_eq, byteSize_toList, tokenItems, front]
  cases cause with
  | none => rfl
  | some cause =>
      simp only [Cursor.outcome, Cursor.between, Location.locate_utf8ByteSize]
      rw [List.append_assoc, Location.past_append, Location.past_eq_behind]

/-- Behind a semicolon an item and a fault are found as at the start of a text, further on. -/
theorem items_append_behind_semicolon :
    EndsStatement "a;" [⟨.text, "a", 0, none⟩, ⟨.punctuation, ";", 1, none⟩] ∧
      items ("a;" ++ "$b") =
        .ok [⟨.text, "a", 0, none⟩, ⟨.punctuation, ";", 1, none⟩, ⟨.reference, "$b", 2, none⟩] ∧
      items ("a;" ++ " '") = .error ⟨.unclosedQuote, ⟨3, 1, 4⟩⟩ := by
  have ends : EndsStatement "a;" [⟨.text, "a", 0, none⟩, ⟨.punctuation, ";", 1, none⟩] :=
    .inr ⟨by decide +kernel, _, rfl, by decide, by decide⟩
  have reference : items "$b" = .ok [⟨.reference, "$b", 0, none⟩] := by decide +kernel
  have fault : items " '" = .error ⟨.unclosedQuote, ⟨1, 1, 2⟩⟩ := by decide +kernel
  refine ⟨ends, ?_, ?_⟩
  · have together := items_append_of_endsStatement ends "$b" (by decide)
    rw [reference] at together
    exact together
  · have together := items_append_of_endsStatement ends " '" (by decide)
    rw [fault] at together
    exact together

end StyleLexer
