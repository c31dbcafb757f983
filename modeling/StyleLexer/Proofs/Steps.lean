import StyleLexer.Proofs.Passages

/-!
# Steps of the scanner

`Scanner.Moves` says once what a step can come to, and `Scanner.moves_step` that there is
nothing else. What every step preserves is read off it case by case. `Scanner.Follows` is such
an invariant: however many steps a scanner takes, it keeps to the passage in front of it.
-/

namespace StyleLexer

namespace Scanner

/-- What a step can come to. -/
inductive Moves (scanner : Scanner) : Step → Prop where
  /-- The end of the text is handed out. -/
  | ends (cursor : Cursor) :
      Moves scanner (.yield (.ofEnd cursor.location)
        { cursor, place := .following .endOfText "", phase := .finished })
  /-- A fault is handed out. -/
  | fails (cause : Cause) (cursor : Cursor) :
      Moves scanner (.yield (.ofFault { cause, location := cursor.location })
        { cursor, place := scanner.place, phase := .finished })
  /-- The lexeme at the cursor is handed out. -/
  | reads {first : Char} {text rest : List Char} {lexeme : Lexeme} {behind : Cursor} {item : Item}
      (reading : scanner.phase = .reading) (whole : scanner.cursor.rest = first :: text)
      (read : Lexeme.read first text = .ok (lexeme, rest))
      (moved : behind = scanner.cursor.move lexeme.source rest)
      (isItem : item = lexeme.item scanner.place scanner.cursor.location behind) :
      Moves scanner (.yield item { cursor := behind, place := .following item.kind item.value })
  /-- Trivia is passed, and no comment is left open behind it. -/
  | seeks (seeking : scanner.phase = .seeking)
      (noComment : Trivia.opensBlockComment (Trivia.skip scanner.cursor).rest = false) :
      Moves scanner
        (.silent { scanner with cursor := Trivia.skip scanner.cursor, phase := .reading })
  /-- There is nothing to read. -/
  | rests : Moves scanner (.silent { scanner with phase := .finished })

/-- A step comes to nothing else. -/
theorem moves_step (scanner : Scanner) : scanner.Moves scanner.step := by
  unfold step
  split
  · rename_i seeking
    unfold settle
    split
    · exact .fails _ _
    · rename_i noComment
      split
      · exact .ends _
      · exact .seeks seeking (by simpa using noComment)
  · rename_i reading
    unfold readLexeme
    split
    · exact .rests
    · rename_i first text whole
      split
      · exact .fails _ _
      · rename_i lexeme rest read
        exact .reads reading whole read rfl rfl
  · exact .ends _

/-- The scanner behind a step, whether or not the step hands out an item. -/
def Step.after : Step → Scanner
  | .yield _ after => after
  | .silent after => after

/-- The scanner behind a number of steps. -/
def afterSteps : Nat → Scanner → Scanner
  | 0, scanner => scanner
  | count + 1, scanner => afterSteps count scanner.step.after

end Scanner

/-- Passages that meet make up one passage. -/
theorem Passage.append {first middle last : Cursor} {tokens tokens' : List Token}
    (leading : Passage first tokens middle) (trailing : Passage middle tokens' last) :
    Passage first (tokens ++ tokens') last := by
  induction leading with
  | here => exact trailing
  | more found _ inductionHypothesis => exact .more found (inductionHypothesis trailing)

namespace Scanner

/-- The scanner has gone along a passage: it seeks at the end of it, or it reads behind the
trivia that follows. -/
def Follows (start : Cursor) (scanner : Scanner) : Prop :=
  match scanner.phase with
  | .seeking => ∃ tokens, Passage start tokens scanner.cursor
  | .reading =>
      ∃ tokens last, Passage start tokens last ∧ scanner.cursor = Trivia.skip last ∧
        Trivia.opensBlockComment scanner.cursor.rest = false
  | .finished => True

variable {start : Cursor} {scanner : Scanner}

/-- One step keeps to the passage. -/
theorem Follows.step (follows : scanner.Follows start) : scanner.step.after.Follows start := by
  have moves := scanner.moves_step
  generalize scanner.step = step at moves
  cases moves with
  | ends cursor => trivial
  | fails cause cursor => trivial
  | rests => trivial
  | seeks seeking noComment =>
      simp only [Follows, seeking] at follows
      obtain ⟨tokens, passage⟩ := follows
      exact ⟨tokens, scanner.cursor, passage, rfl, noComment⟩
  | @reads first text rest lexeme behind item reading whole read moved isItem =>
      simp only [Follows, reading] at follows
      obtain ⟨tokens, last, passage, atLexeme, noComment⟩ := follows
      have found : (Trivia.skip last).finding = .lexeme lexeme rest := by
        rw [Cursor.finding_eq_lexeme_iff, ← atLexeme, whole]
        exact ⟨whole ▸ noComment, Lexeme.read_eq_ok_iff.mp read⟩
      rw [atLexeme] at moved
      rw [moved]
      exact ⟨_, passage.append (.more found .here)⟩

/-- Any number of steps keep to the passage. -/
theorem Follows.afterSteps (follows : scanner.Follows start) (count : Nat) :
    (afterSteps count scanner).Follows start := by
  induction count generalizing scanner with
  | zero => exact follows
  | succ count inductionHypothesis => exact inductionHypothesis follows.step

/-- A scanner that seeks again has gone along a passage from where it started. -/
theorem exists_passage_of_afterSteps {text : List Char} {count : Nat}
    (seeking : (afterSteps count (.ofText text)).phase = .seeking) :
    ∃ tokens, Passage (Cursor.ofText text) tokens (afterSteps count (.ofText text)).cursor := by
  have start : (Scanner.ofText text).Follows (.ofText text) := ⟨[], .here⟩
  have follows := start.afterSteps count
  simpa only [Follows, seeking] using follows

end Scanner

end StyleLexer
