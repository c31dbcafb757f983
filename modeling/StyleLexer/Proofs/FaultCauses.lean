import StyleLexer.Proofs.Readings
import StyleLexer.Proofs.Slices

/-!
# Causes of faults

A fault is a statement about the rest of the text: that nothing closes what opens there, or
that the character opens nothing. `Cause.Explains` says what each cause states, in terms of
the grammar of bodies and without the scans. `Cursor.finding_eq_stop_some_iff` says that
reading stops with a cause exactly where the cause holds, and `fault_of_mem_items` what that
means for the items of a text.
-/

namespace StyleLexer

/-- What each cause states about the text from the fault on. -/
def Cause.Explains (text : List Char) : Cause → Prop
  | unclosedQuote =>
      ∃ quote later, text = quote :: later ∧ Quoted.isQuote quote = true ∧
        ∀ body, Quoted.Body quote body → ¬ body ++ [quote] <+: later
  | unclosedInterpolation =>
      ∃ later, text = ['#', '\x7b'] ++ later ∧
        ∀ body, Interpolation.Body body → ¬ body ++ ['\x7d'] <+: later
  | unclosedComment =>
      ∃ later, text = ['/', '*'] ++ later ∧ ¬ ['*', '/'] <:+: later
  | strayCharacter c =>
      ∃ later, text = c :: later ∧
        ((c = '$' ∨ c = '@') ∧ Identifier.StopsName later ∨
          Unicode.isWhitespace c = false ∧ Unicode.isAlphabetic c = false ∧
            c.isDigit = false ∧ Lexeme.isPunctuation c = false)

namespace Lexeme

open Identifier

/-- A character that is no letter, digit or mark is read as a symbol, and is none. -/
theorem read_of_stray {c : Char} (noLetter : Unicode.isAlphabetic c = false)
    (noDigit : c.isDigit = false) (noMark : isPunctuation c = false) (text : List Char) :
    read c text = .error (.strayCharacter c) := by
  have category := Category.opening_eq_symbol noLetter noDigit noMark text
  have notHash : c ≠ '#' := by
    rintro rfl
    cases noMark
  simp [read, category, notHash, noMark]

/-- Reading fails only with a cause that holds. -/
theorem explains_of_read {first : Char} {text : List Char} {cause : Cause}
    (noBlank : Unicode.isWhitespace first = false) (reading : read first text = .error cause) :
    cause.Explains (first :: text) := by
  unfold read at reading
  split at reading
  · rename_i opens
    obtain rfl := Category.eq_of_opening_variableName opens
    split at reading
    · rename_i empty
      cases reading
      exact ⟨text, rfl, .inl ⟨.inl rfl, stopsName_iff.mpr (List.isEmpty_iff.mp empty)⟩⟩
    · cases reading
  · rename_i opens
    obtain ⟨rfl, brace⟩ := Category.eq_of_opening_interpolation opens
    obtain ⟨behind, rfl⟩ := List.head?_eq_some_iff.mp brace
    split at reading
    · cases reading
    · rename_i unclosed
      cases reading
      exact ⟨behind, rfl, Interpolation.split?_eq_none_iff.mp unclosed⟩
  · rename_i opens
    have quote : Quoted.isQuote first = true := Category.opening_eq_iff.mp opens
    split at reading
    · cases reading
    · rename_i unclosed
      cases reading
      exact ⟨first, text, rfl, quote,
        (Quoted.split?_eq_none_iff (Quoted.ne_backslash_of_isQuote quote)).mp unclosed⟩
  · cases reading
  · rename_i opens
    obtain rfl := Category.eq_of_opening_directive opens
    split at reading
    · rename_i empty
      cases reading
      exact ⟨text, rfl, .inl ⟨.inr rfl, stopsName_iff.mpr (List.isEmpty_iff.mp empty)⟩⟩
    · cases reading
  · cases reading
  · rename_i opens
    obtain ⟨_, _, _, noDigit, _, noStart⟩ := Category.opening_eq_iff.mp opens
    split at reading
    · cases reading
    · split at reading
      · cases reading
      · rename_i noMark
        cases reading
        simp only [isStart, Bool.or_eq_false_iff] at noStart
        exact ⟨text, rfl, .inr ⟨noBlank, noStart.1, noDigit, by simpa using noMark⟩⟩

/-- Reading fails with every cause that holds, apart from that of a comment. -/
theorem read_of_explains {first : Char} {text : List Char} {cause : Cause}
    (noComment : cause ≠ .unclosedComment) (explains : cause.Explains (first :: text)) :
    read first text = .error cause := by
  cases cause with
  | unclosedComment => exact absurd rfl noComment
  | unclosedQuote =>
      obtain ⟨quote, later, whole, opens, unclosed⟩ := explains
      obtain ⟨rfl, rfl⟩ := List.cons.inj whole
      have category : Category.opening first text = .quoted := Category.opening_eq_of_opens opens
      have split := (Quoted.split?_eq_none_iff (Quoted.ne_backslash_of_isQuote opens)).mpr unclosed
      simp [read, category, split]
  | unclosedInterpolation =>
      obtain ⟨later, whole, unclosed⟩ := explains
      obtain ⟨rfl, rfl⟩ := List.cons.inj whole
      have category : Category.opening '#' ('\x7b' :: later) = .interpolation := rfl
      have split := Interpolation.split?_eq_none_iff.mpr unclosed
      simp [read, category, split]
  | strayCharacter c =>
      obtain ⟨later, whole, sign | ⟨_, noLetter, noDigit, noMark⟩⟩ := explains
      · obtain ⟨rfl, rfl⟩ := List.cons.inj whole
        obtain ⟨rfl | rfl, stops⟩ := sign
        · have category : Category.opening '$' text = .variableName := rfl
          simp [read, category, stopsName_iff.mp stops]
        · have category : Category.opening '@' text = .directive := rfl
          simp [read, category, stopsName_iff.mp stops]
      · obtain ⟨rfl, rfl⟩ := List.cons.inj whole
        exact read_of_stray noLetter noDigit noMark text

end Lexeme

/-- The mark that opens a block comment is explained by no other cause. -/
theorem Cause.eq_of_explains_comment {cause : Cause} {text : List Char}
    (explains : cause.Explains ('/' :: '*' :: text)) : cause = .unclosedComment := by
  cases cause with
  | unclosedComment => rfl
  | unclosedQuote =>
      obtain ⟨quote, later, whole, opens, _⟩ := explains
      rw [← (List.cons.inj whole).1] at opens
      cases opens
  | unclosedInterpolation =>
      obtain ⟨later, whole, _⟩ := explains
      cases (List.cons.inj whole).1
  | strayCharacter c =>
      obtain ⟨later, whole, ⟨rfl | rfl, _⟩ | ⟨_, _, _, noMark⟩⟩ := explains
      · cases (List.cons.inj whole).1
      · cases (List.cons.inj whole).1
      · rw [← (List.cons.inj whole).1] at noMark
        cases noMark

/-- No cause holds at the end of a text. -/
theorem Cause.Explains.ne_nil {cause : Cause} {text : List Char} (explains : cause.Explains text) :
    text ≠ [] := by
  rintro rfl
  cases cause <;> simp [Cause.Explains] at explains

/-- Where no trivia is to be passed, reading stops with a cause exactly if the cause holds. -/
theorem Cursor.finding_eq_stop_some_iff {cursor : Cursor} {cause : Cause}
    (stops : Trivia.first? cursor.previous cursor.rest = none) :
    cursor.finding = .stop (some cause) ↔ cause.Explains cursor.rest := by
  unfold finding
  -- An open comment is the one cause that is found before any lexeme is read.
  by_cases comment : Trivia.opensBlockComment cursor.rest = true
  · rw [if_pos comment]
    unfold Trivia.opensBlockComment at comment
    split at comment
    · rename_i text whole
      rw [whole] at stops ⊢
      have unclosed := Trivia.first?_comment_eq_none_iff.mp stops
      constructor
      · intro stop
        cases stop
        exact ⟨text, rfl, unclosed⟩
      · intro explains
        rw [Cause.eq_of_explains_comment explains]
    · cases comment
  · rw [if_neg comment]
    have clear : Trivia.opens cursor.previous cursor.rest = false :=
      Trivia.opens_eq_false_iff.mpr ⟨stops, by simpa using comment⟩
    cases whole : cursor.rest with
    | nil =>
        refine ⟨?_, fun explains => absurd rfl explains.ne_nil⟩
        intro stop
        cases stop
    | cons first text =>
        rw [whole] at clear comment
        simp only [Trivia.opens, Bool.or_eq_false_iff] at clear
        constructor
        · intro stop
          cases reading : Lexeme.read first text with
          | ok lexeme => simp [reading] at stop
          | error cause' =>
              obtain rfl : cause' = cause := by simpa [reading] using stop
              exact Lexeme.explains_of_read clear.1 reading
        · intro explains
          have noComment : cause ≠ .unclosedComment := by
            rintro rfl
            obtain ⟨later, opened, _⟩ := explains
            rw [opened] at comment
            exact comment rfl
          simp only [Lexeme.read_of_explains noComment explains]

/-- A fault tells the truth about a text: its location is that of its offset, and its cause
holds for what stands there. -/
structure Fault.Genuine (text : String) (fault : Fault) : Prop where
  located : fault.location = .locate text.toList fault.location.offset
  explained : ∃ before after, text.toList = before ++ after ∧
    byteSize before = fault.location.offset ∧ fault.cause.Explains after

/-- A reading that stops with a cause stops at a genuine fault. -/
theorem Reading.genuine {text : String} {passed trivia rest : List Char} {tokens : List Token}
    {cause : Cause} (reading : Reading text.toList passed trivia rest tokens (some cause)) :
    Fault.Genuine text
      ⟨cause, (Cursor.between (leadingMark text.toList ++ passed ++ trivia) rest).location⟩ := by
  have whole := reading.whole
  rw [← List.append_assoc] at whole
  constructor
  · have located := Location.locate_byteSize (leadingMark text.toList ++ passed ++ trivia) rest
    rw [← whole] at located
    rw [Cursor.between_offset, located]
    rfl
  · refine ⟨_, rest, whole, (Cursor.between_offset _ rest).symm, ?_⟩
    exact (Cursor.finding_eq_stop_some_iff reading.ends).mp reading.stops

/-- An item of a text carries no fault, or it is a failure that carries a genuine one. -/
theorem fault_of_mem_items {text : String} {item : Item}
    (member : item ∈ (ItemStream.ofText text).items) :
    item.kind ≠ .failure ∧ item.fault = none ∨
      ∃ fault, item.kind = .failure ∧ item.value = fault.cause.message ∧
        item.offset = fault.location.offset ∧ item.fault = some fault ∧ fault.Genuine text := by
  obtain ⟨passed, trivia, rest, tokens, cause, reading⟩ := exists_reading text.toList
  rw [reading.items_eq, List.mem_append, List.mem_singleton] at member
  rcases member with ofToken | rfl
  · have goesOn := Token.isEnding_of_mem_items ofToken
    refine .inl ⟨?_, Token.fault_eq_none_of_mem_items ofToken⟩
    intro failure
    rw [failure] at goesOn
    cases goesOn
  · cases cause with
    | none => exact .inl ⟨nofun, rfl⟩
    | some cause => exact .inr ⟨_, rfl, rfl, rfl, rfl, reading.genuine⟩

/-- A quote that nothing closes behind a word is a genuine fault. -/
theorem fault_of_open_quote :
    .ofFault ⟨.unclosedQuote, ⟨2, 1, 3⟩⟩ ∈ (ItemStream.ofText "a 'b").items ∧
      Fault.Genuine "a 'b" ⟨.unclosedQuote, ⟨2, 1, 3⟩⟩ := by
  have member : Item.ofFault ⟨.unclosedQuote, ⟨2, 1, 3⟩⟩ ∈ (ItemStream.ofText "a 'b").items := by
    decide +kernel
  refine ⟨member, ?_⟩
  rcases fault_of_mem_items member with ⟨notFailure, _⟩ | ⟨fault, _, _, _, same, genuine⟩
  · exact absurd rfl notFailure
  · obtain rfl := Option.some.inj same
    exact genuine

end StyleLexer
