import StyleLexer.Lexeme.Kind

/-!
# The scanner

A scanner is a cursor in a stylesheet together with the place in the statement and the
phase of its work. `Scanner.step` is the only transition: it either hands out one item or
moves on silently. `Scanner.next` repeats it up to the next item.
-/

namespace StyleLexer

/-- What a scanner does next. -/
inductive Phase where
  /-- Pass trivia and find the next lexeme. -/
  | seeking
  /-- Read the lexeme at the cursor. -/
  | reading
  /-- Hand out the end of the text. -/
  | finished
deriving DecidableEq, Repr

/-- A bound on the number of silent steps before the next item. -/
def Phase.rank : Phase → Nat
  | .seeking => 2
  | .reading => 1
  | .finished => 0

/-- The state of reading a stylesheet. -/
structure Scanner where
  cursor : Cursor
  place : Place := .initial
  phase : Phase := .seeking

namespace Scanner

/-- A scanner at the start of a text, behind a byte order mark. -/
def ofText (text : List Char) : Scanner where
  cursor := .ofText text

/-- A scanner that reads at once, without seeking, if the text opens as the category says,
and that seeks first otherwise. Whitespace and comments open as symbols do, so a text that
is expected to open with a symbol has none of them passed. -/
def startingAt (category : Category) (text : List Char) : Scanner where
  cursor := .ofText text
  phase :=
    if Category.ofText? (Cursor.ofText text).rest = some category then .reading
    else .seeking

/-- What one step of a scanner comes to. -/
inductive Step where
  /-- An item, and the scanner behind it. -/
  | yield (item : Item) (after : Scanner)
  /-- No item yet. -/
  | silent (after : Scanner)

/-- Hand out the end of the text. -/
def finish (scanner : Scanner) : Step :=
  let cursor := scanner.cursor.toEnd
  .yield (.ofEnd cursor.location)
    { cursor, place := .following .endOfText "", phase := .finished }

/-- Hand out a fault that starts at the cursor. The place stays as it was. -/
def stop (scanner : Scanner) (cause : Cause) : Step :=
  .yield (.ofFault { cause, location := scanner.cursor.location })
    { scanner with phase := .finished }

/-- Hand out a lexeme that lies between the cursor and `rest`. -/
def emit (scanner : Scanner) (lexeme : Lexeme) (rest : List Char) : Step :=
  let behind := scanner.cursor.move lexeme.source rest
  let item := lexeme.item scanner.place scanner.cursor.location behind
  .yield item { cursor := behind, place := .following item.kind item.value }

/-- Find out what stands at the cursor, all trivia being passed. -/
def settle (scanner : Scanner) : Step :=
  if Trivia.opensBlockComment scanner.cursor.rest then scanner.stop .unclosedComment
  else if scanner.cursor.rest.isEmpty then scanner.finish
  else .silent { scanner with phase := .reading }

/-- Read the lexeme at the cursor. -/
def readLexeme (scanner : Scanner) : Step :=
  match scanner.cursor.rest with
  | [] => .silent { scanner with phase := .finished }
  | first :: text =>
      match Lexeme.read first text with
      | .error cause => scanner.stop cause
      | .ok (lexeme, rest) => scanner.emit lexeme rest

/-- One step of a scanner. -/
def step (scanner : Scanner) : Step :=
  match scanner.phase with
  | .seeking => settle { scanner with cursor := Trivia.skip scanner.cursor }
  | .reading => scanner.readLexeme
  | .finished => scanner.finish

/-- A silent step comes closer to the next item. -/
theorem rank_of_silent {scanner after : Scanner} (silent : scanner.step = .silent after) :
    after.phase.rank < scanner.phase.rank := by
  unfold step at silent
  split at silent
  · rename_i phase
    unfold settle at silent
    split at silent
    · cases silent
    · split at silent
      · cases silent
      · cases silent
        simp [phase, Phase.rank]
  · rename_i phase
    unfold readLexeme at silent
    split at silent
    · cases silent
      simp [phase, Phase.rank]
    · split at silent <;> cases silent
  · cases silent

/-- A silent step leaves no more text than there was. -/
theorem length_of_silent {scanner after : Scanner} (silent : scanner.step = .silent after) :
    after.cursor.rest.length ≤ scanner.cursor.rest.length := by
  unfold step at silent
  split at silent
  · unfold settle at silent
    split at silent
    · cases silent
    · split at silent
      · cases silent
      · cases silent
        exact Trivia.length_skip_le scanner.cursor
  · unfold readLexeme at silent
    split at silent
    · cases silent
      exact Nat.le_refl _
    · split at silent <;> cases silent
  · cases silent

/-- An item is the end of the text, or a fault, or a lexeme, and a lexeme takes some
text. -/
theorem origin_of_yield {scanner after : Scanner} {item : Item}
    (yields : scanner.step = .yield item after) :
    (∃ location, item = .ofEnd location) ∨ (∃ fault, item = .ofFault fault) ∨
      (∃ lexeme : Lexeme, item = lexeme.item scanner.place scanner.cursor.location after.cursor) ∧
        after.cursor.rest.length < scanner.cursor.rest.length := by
  unfold step at yields
  split at yields
  · unfold settle at yields
    split at yields
    · cases yields
      exact .inr (.inl ⟨_, rfl⟩)
    · split at yields
      · cases yields
        exact .inl ⟨_, rfl⟩
      · cases yields
  · unfold readLexeme at yields
    split at yields
    · cases yields
    · rename_i first text behind
      split at yields
      · cases yields
        exact .inr (.inl ⟨_, rfl⟩)
      · rename_i lexeme rest reading
        cases yields
        refine .inr (.inr ⟨⟨lexeme, rfl⟩, ?_⟩)
        simpa [behind] using Nat.lt_succ_of_le (Lexeme.length_of_read reading)
  · cases yields
    exact .inl ⟨_, rfl⟩

/-- The next item and the scanner behind it. -/
def next (scanner : Scanner) : Item × Scanner :=
  match _stepped : scanner.step with
  | .yield item after => (item, after)
  | .silent after => after.next
termination_by scanner.phase.rank
decreasing_by exact rank_of_silent _stepped

/-- Every item that does not end the stream takes some text. -/
theorem length_of_next {scanner after : Scanner} {item : Item}
    (handed : scanner.next = (item, after)) (goesOn : item.kind.isEnding = false) :
    after.cursor.rest.length < scanner.cursor.rest.length := by
  fun_induction next scanner with
  | case1 scanner found behind yields =>
      cases handed
      obtain ⟨location, rfl⟩ | ⟨fault, rfl⟩ | ⟨_, shorter⟩ := origin_of_yield yields
      · cases goesOn
      · cases goesOn
      · exact shorter
  | case2 scanner later silent inductionHypothesis =>
      exact Nat.lt_of_lt_of_le (inductionHypothesis handed) (length_of_silent silent)

/-- Every failure carries its fault. -/
theorem kind_of_next {scanner after : Scanner} {item : Item}
    (handed : scanner.next = (item, after)) (faultless : item.fault = none)
    (notEnd : item.kind ≠ .endOfText) : item.kind.isEnding = false := by
  fun_induction next scanner with
  | case1 scanner found behind yields =>
      cases handed
      obtain ⟨location, rfl⟩ | ⟨fault, rfl⟩ | ⟨⟨lexeme, rfl⟩, _⟩ := origin_of_yield yields
      · exact absurd rfl notEnd
      · cases faultless
      · exact Lexeme.isEnding_kind _ _ lexeme
  | case2 scanner later silent inductionHypothesis => exact inductionHypothesis handed

end Scanner

end StyleLexer
