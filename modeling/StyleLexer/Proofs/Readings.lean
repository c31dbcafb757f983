import StyleLexer.Proofs.Fronts
import StyleLexer.Proofs.TokenKinds

/-!
# Readings of a text

A `Reading` says without the scanner how a text is read: over a stretch of tokens behind the
byte order mark, then over trivia to the place where reading stops. Every text has one, and
`Reading.items_eq` and `Reading.outcome_eq` are all that the lexer does with it. What
relates the items of two texts is proved by giving the reading of one from that of the
other.
-/

namespace StyleLexer

/-- The beginning of a text that belongs to no item: a byte order mark, if there is one. -/
def leadingMark : List Char → List Char
  | '\ufeff' :: _ => ['\ufeff']
  | _ => []

/-- Only a byte order mark is passed at the start of a text. -/
theorem leadingMark_of_head? {text : List Char} (unmarked : text.head? ≠ some '\ufeff') :
    leadingMark text = [] := by
  unfold leadingMark
  split
  · exact absurd rfl unmarked
  · rfl

/-- The byte order mark of a text remains the same whatever is put behind a beginning of the
text, unless it is a mark at the start. -/
theorem leadingMark_append {text front rest rest' : List Char}
    (whole : text = leadingMark text ++ front ++ rest)
    (unmarked : rest'.head? ≠ some '\ufeff') :
    leadingMark (leadingMark text ++ front ++ rest') = leadingMark text := by
  by_cases marked : text.head? = some '\ufeff'
  · obtain ⟨behind, rfl⟩ := List.head?_eq_some_iff.mp marked
    rfl
  · have noMark := leadingMark_of_head? marked
    rw [noMark, List.nil_append] at whole ⊢
    apply leadingMark_of_head?
    cases front with
    | nil => exact unmarked
    | cons c front =>
        rw [whole] at marked
        exact marked

/-- Reading starts behind the byte order mark. -/
theorem Cursor.exists_ofText (text : List Char) :
    ∃ rest, text = leadingMark text ++ rest ∧ ofText text = between (leadingMark text) rest := by
  by_cases marked : text.head? = some '\ufeff'
  · obtain ⟨rest, rfl⟩ := List.head?_eq_some_iff.mp marked
    exact ⟨rest, rfl, rfl⟩
  · refine ⟨text, by rw [leadingMark_of_head? marked]; rfl, ?_⟩
    rw [leadingMark_of_head? marked]
    unfold ofText
    split
    · exact absurd rfl marked
    · rfl

/-- A stretch behind the byte order mark is passed from the start of the text. -/
theorem Stretch.passage_ofText {text passed behind : List Char} {tokens : List Token}
    (stretch : Stretch behind (leadingMark text) passed tokens)
    (whole : text = leadingMark text ++ passed ++ behind) :
    Passage (Cursor.ofText text) tokens (.between (leadingMark text ++ passed) behind) := by
  obtain ⟨unread, opening, opened⟩ := Cursor.exists_ofText text
  have same : leadingMark text ++ unread = leadingMark text ++ (passed ++ behind) := by
    rw [← opening, ← List.append_assoc]
    exact whole
  rw [opened, List.append_cancel_left same]
  exact stretch.passage

/-- The text is read over `passed`, which has these tokens, and over trivia to the place in
front of `rest` where reading stops. -/
structure Reading (text passed trivia rest : List Char) (tokens : List Token)
    (cause : Option Cause) : Prop where
  whole : text = leadingMark text ++ passed ++ (trivia ++ rest)
  stretch : Stretch (trivia ++ rest) (leadingMark text) passed tokens
  run : Trivia.Run rest (leadingMark text ++ passed).getLast? trivia
  /-- No further trivia follows. -/
  ends : Trivia.first? (leadingMark text ++ passed ++ trivia).getLast? rest = none
  /-- No lexeme follows either. -/
  stops : (Cursor.between (leadingMark text ++ passed ++ trivia) rest).finding = .stop cause

/-- Every text has a reading. -/
theorem exists_reading (text : List Char) :
    ∃ passed trivia rest tokens cause, Reading text passed trivia rest tokens cause := by
  obtain ⟨unread, whole, opened⟩ := Cursor.exists_ofText text
  obtain ⟨tokens, last, cause, passage, stops⟩ := exists_passage (Cursor.ofText text)
  obtain ⟨passed, behind, rfl, rfl, stretch⟩ := passage.exists_stretch opened
  obtain ⟨trivia, rest, rfl, run, skipped⟩ :=
    Trivia.exists_skip_between (leadingMark text ++ passed) behind
  have ends := Trivia.first?_skip (.between (leadingMark text ++ passed) (trivia ++ rest))
  rw [skipped] at ends stops
  exact ⟨passed, trivia, rest, tokens, cause,
    ⟨by rwa [List.append_assoc], stretch, run, ends, stops⟩⟩

namespace Reading

variable {passed trivia rest : List Char} {tokens : List Token} {cause : Option Cause}

/-- The cursor where reading stops. -/
theorem skip_eq {text : List Char} (reading : Reading text passed trivia rest tokens cause) :
    Trivia.skip (.between (leadingMark text ++ passed) (trivia ++ rest)) =
      .between (leadingMark text ++ passed ++ trivia) rest :=
  Trivia.skip_between reading.run reading.ends

/-- Reading goes over the tokens. -/
theorem passage {text : List Char} (reading : Reading text passed trivia rest tokens cause) :
    Passage (Cursor.ofText text) tokens
      (.between (leadingMark text ++ passed) (trivia ++ rest)) :=
  reading.stretch.passage_ofText reading.whole

/-- The tokens stand in the text. -/
theorem standsIn_of_mem {text : List Char}
    (reading : Reading text passed trivia rest tokens cause) {token : Token}
    (member : token ∈ tokens) : token.StandsIn text := by
  have fresh : Fresh (leadingMark text) (passed ++ (trivia ++ rest)) := by
    by_cases marked : text.head? = some '\ufeff'
    · obtain ⟨behind, rfl⟩ := List.head?_eq_some_iff.mp marked
      exact .of_getLast? rfl (by decide) (by decide) _
    · rw [leadingMark_of_head? marked]
      exact ⟨by simp, by simp⟩
  rw [reading.whole]
  exact reading.stretch.standsIn_of_mem fresh member

/-- The stream of a text hands out the items of its tokens and the item that ends it. -/
theorem items_eq {text : String} (reading : Reading text.toList passed trivia rest tokens cause) :
    (ItemStream.ofText text).items =
      Token.items .initial tokens ++
        [(Cursor.between (leadingMark text.toList ++ passed ++ trivia) rest).closing cause] := by
  have stops := reading.stops
  rw [← reading.skip_eq] at stops ⊢
  exact ItemStream.items_of_passage reading.passage stops .initial

/-- Reading a whole text gives the items of its tokens, or the fault where reading stops. -/
theorem outcome_eq {text : String}
    (reading : Reading text.toList passed trivia rest tokens cause) :
    items text =
      (Cursor.between (leadingMark text.toList ++ passed ++ trivia) rest).outcome
        (Token.items .initial tokens) cause := by
  have stops := reading.stops
  rw [← reading.skip_eq] at stops ⊢
  exact Scanner.items_of_passage reading.passage stops .initial

end Reading

end StyleLexer
