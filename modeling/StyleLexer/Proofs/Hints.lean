import StyleLexer.Proofs.Blanks
import StyleLexer.Proofs.Readings

/-!
# Expected categories

A caller may say with which category of lexeme a text opens. `drain_expecting_eq_iff` says
exactly when that makes no difference: unless a symbol is expected where the text opens with
a blank or with the mark of a comment. There the scanner reads at once what it should have
passed.
-/

namespace StyleLexer

/-- Where trivia opens, the category is that of symbols. -/
theorem Category.ofText?_of_opens {front : Option Char} {text : List Char}
    (opens : Trivia.opens front text = true) : ofText? text = some .symbol := by
  cases text with
  | nil => cases opens
  | cons first text =>
      simp only [Trivia.opens, Bool.or_eq_true, Bool.and_eq_true, beq_iff_eq] at opens
      rcases opens with blank | comment
      · exact congrArg some (opening_of_isWhitespace blank text)
      · rw [comment.1]
        rfl

/-- Skipping never goes back. -/
theorem Trivia.offset_le_skip (cursor : Cursor) :
    cursor.location.offset ≤ (skip cursor).location.offset := by
  obtain ⟨trivia, _, _, skipped⟩ := exists_run_skip cursor
  rw [skipped]
  simp [Cursor.move]

namespace Scanner

variable {cursor : Cursor} (place : Place)

/-- Where no trivia opens, seeking goes straight on to reading. -/
theorem next_of_opens_eq_false (clear : Trivia.opens cursor.previous cursor.rest = false)
    (nonempty : cursor.rest ≠ []) :
    next { cursor, place, phase := .reading } = next { cursor, place } := by
  obtain ⟨stops, noComment⟩ := Trivia.opens_eq_false_iff.mp clear
  have silent : step { cursor, place } = .silent { cursor, place, phase := .reading } := by
    simp [step, settle, Trivia.skip_of_first?_eq_none stops, noComment, nonempty]
  exact (next_of_silent silent).symm

/-- A scanner that reads where trivia opens hands out an item that begins there: a slash as
a symbol, or the fault of a blank. -/
theorem next_of_reading_opens {front : Option Char}
    (opens : Trivia.opens front cursor.rest = true) :
    let item := (next { cursor, place, phase := .reading }).1
    item.offset = cursor.location.offset ∧
      (cursor.rest.head? = some '/' → item.kind = .punctuation) := by
  cases whole : cursor.rest with
  | nil =>
      rw [whole] at opens
      cases opens
  | cons first text =>
      rw [whole] at opens
      have category := Option.some.inj (Category.ofText?_of_opens opens)
      simp only [Trivia.opens, Bool.or_eq_true, Bool.and_eq_true, beq_iff_eq] at opens
      rcases opens with blank | comment
      · have notHash : first ≠ '#' := by
          rintro rfl
          cases blank
        have notSlash : first ≠ '/' := by
          rintro rfl
          cases blank
        have noMark := Lexeme.isPunctuation_of_isWhitespace blank
        have read : Lexeme.read first text = .error (.strayCharacter first) := by
          simp [Lexeme.read, category, notHash, noMark]
        rw [next_of_yield (step_of_read_error rfl whole read)]
        exact ⟨rfl, fun slash => absurd (Option.some.inj slash) notSlash⟩
      · obtain rfl := comment.1
        have read : Lexeme.read '/' text = .ok (.symbol '/', text) := by
          simp [Lexeme.read, category, show Lexeme.isPunctuation '/' = true from rfl]
        rw [next_of_yield (step_of_read_ok rfl whole read)]
        exact ⟨rfl, fun _ => rfl⟩

/-- A scanner that seeks hands out an item that begins behind the trivia. -/
theorem offset_skip_le_next (cursor : Cursor) :
    (Trivia.skip cursor).location.offset ≤ (next { cursor, place }).1.offset := by
  cases found : (Trivia.skip cursor).finding with
  | lexeme lexeme rest =>
      rw [next_of_lexeme place found]
      exact Nat.le_add_right _ _
  | stop cause =>
      obtain ⟨after, handed, _⟩ := next_of_stop place found
      rw [handed]
      cases cause with
      | none => exact Nat.le_refl _
      | some cause => exact Nat.le_refl _

/-- A scanner that seeks where trivia opens hands out an item further on, or the fault of a
comment that nothing closes. -/
theorem next_of_opens (opens : Trivia.opens cursor.previous cursor.rest = true) :
    let item := (next { cursor, place }).1
    cursor.location.offset < item.offset ∨
      cursor.rest.head? = some '/' ∧ item.kind = .failure := by
  cases found : Trivia.first? cursor.previous cursor.rest with
  | some passed =>
      obtain ⟨element, rest⟩ := passed
      have further := offset_skip_le_next place cursor
      have behind := Trivia.offset_le_skip (cursor.move element.source rest)
      have positive := Nat.pos_of_ne_zero (mt byteSize_eq_zero_iff.mp element.source_ne_nil)
      rw [← Trivia.skip_of_first? found] at behind
      simp only [Cursor.move, Location.past_offset] at behind
      exact .inl (by omega)
  | none =>
      have comment : Trivia.opensBlockComment cursor.rest = true := by
        apply Bool.of_not_eq_false
        intro noComment
        cases opens.symm.trans (Trivia.opens_eq_false_iff.mpr ⟨found, noComment⟩)
      have stays := Trivia.skip_of_first?_eq_none found
      have stops : (Trivia.skip cursor).finding = .stop (some .unclosedComment) := by
        rw [stays, Cursor.finding, if_pos comment]
      obtain ⟨after, handed, _⟩ := next_of_stop place stops
      rw [handed]
      refine .inr ⟨?_, rfl⟩
      unfold Trivia.opensBlockComment at comment
      split at comment
      · rename_i whole
        rw [whole]
        rfl
      · cases comment

end Scanner

namespace ItemStream

/-- A running stream begins with the item that its scanner hands out. -/
theorem drain_of_running (scanner : Scanner) :
    ∃ place later, (drain { scanner }).1 = (scanner.next.1, place) :: later :=
  ⟨_, _, drain_of_next?_eq_some (next?_of_running scanner)⟩

/-- Streams whose scanners hand out the same have the same items, at the same places. -/
theorem drain_congr {scanner scanner' : Scanner} (same : scanner.next = scanner'.next) :
    (drain { scanner }).1 = (drain { scanner := scanner' }).1 := by
  rw [drain_of_next?_eq_some (next?_of_running scanner),
    drain_of_next?_eq_some (next?_of_running scanner'), same]

end ItemStream

/-- At the start of a text a line comment may open, behind a byte order mark as well. -/
theorem opens_ofText (text : List Char) :
    Trivia.opens (Cursor.ofText text).previous (Cursor.ofText text).rest =
      Trivia.opens none (Cursor.ofText text).rest := by
  apply Trivia.opens_congr
  obtain ⟨rest, _, opened⟩ := Cursor.exists_ofText text
  rw [opened]
  by_cases marked : text.head? = some '\ufeff'
  · obtain ⟨rest, rfl⟩ := List.head?_eq_some_iff.mp marked
    rfl
  · rw [leadingMark_of_head? marked]
    rfl

/-- Reading at once makes no difference only where no trivia opens. -/
theorem ItemStream.drain_reading_eq_iff {cursor : Cursor} (nonempty : cursor.rest ≠ [])
    (place : Place) :
    (drain { scanner := { cursor, place, phase := .reading } }).1 =
        (drain { scanner := { cursor, place } }).1 ↔
      Trivia.opens cursor.previous cursor.rest = false := by
  constructor
  · intro same
    apply Bool.eq_false_iff.mpr
    intro opens
    obtain ⟨_, _, read⟩ := drain_of_running { cursor, place, phase := .reading }
    obtain ⟨_, _, sought⟩ := drain_of_running { cursor, place }
    rw [read, sought] at same
    have sameItem := (Prod.mk.inj (List.cons.inj same).1).1
    obtain ⟨offset, kind⟩ := Scanner.next_of_reading_opens place opens
    rw [sameItem] at offset kind
    rcases Scanner.next_of_opens place opens with further | ⟨slash, failure⟩
    · omega
    · cases failure.symm.trans (kind slash)
  · intro clear
    exact drain_congr (Scanner.next_of_opens_eq_false place clear nonempty)

/-- Starting at a category changes nothing about the items and their places, unless it is the
symbol and trivia opens. -/
theorem ItemStream.drain_startingAt_eq_iff (category : Category) (text : String) :
    (startingAt category text).drain.1 = (ofText text).drain.1 ↔
      ¬ (category = .symbol ∧
        Trivia.opens none (Cursor.ofText text.toList).rest = true) := by
  rw [← opens_ofText]
  by_cases reads : Category.ofText? (Cursor.ofText text.toList).rest = some category
  · have started : startingAt category text = { scanner :=
        { cursor := .ofText text.toList, place := .initial, phase := .reading } } := by
      simp only [startingAt, Scanner.startingAt, if_pos reads]
    have nonempty : (Cursor.ofText text.toList).rest ≠ [] := by
      intro empty
      rw [empty] at reads
      cases reads
    rw [started]
    refine (drain_reading_eq_iff nonempty .initial).trans ?_
    rw [← Bool.not_eq_true]
    apply not_congr
    constructor
    · intro opens
      exact ⟨Option.some.inj (reads.symm.trans (Category.ofText?_of_opens opens)), opens⟩
    · exact And.right
  · have started : startingAt category text = ofText text := by
      simp only [startingAt, Scanner.startingAt, if_neg reads]
      rfl
    refine iff_of_true (by rw [started]) ?_
    rintro ⟨rfl, opens⟩
    exact reads (Category.ofText?_of_opens opens)

/-- What the caller expects changes nothing about the items and their places, unless it is a
symbol where, behind a byte order mark if there is one, trivia opens. -/
theorem drain_expecting_eq_iff (expected : Option Category) (text : String) :
    (ItemStream.expecting expected text).drain.1 = (ItemStream.ofText text).drain.1 ↔
      ¬ (expected = some .symbol ∧
        Trivia.opens none (Cursor.ofText text.toList).rest = true) := by
  cases expected with
  | none => exact iff_of_true rfl fun slip => nomatch slip.1
  | some category =>
      rw [Option.some.injEq]
      exact ItemStream.drain_startingAt_eq_iff category text

/-- In front of a blank the expectation of a symbol makes a fault of the blank. -/
theorem drain_expecting_symbol_blank :
    (ItemStream.expecting (some .symbol) " a").drain.1 =
        [(.ofFault ⟨.strayCharacter ' ', ⟨0, 1, 1⟩⟩, .statementStart)] ∧
      (ItemStream.ofText " a").drain.1 =
        [(⟨.text, "a", 1, none⟩, .expression), (⟨.endOfText, "", 2, none⟩, .expression)] ∧
      (ItemStream.expecting (some .symbol) " a").drain.1 ≠
        (ItemStream.ofText " a").drain.1 := by
  decide +kernel

end StyleLexer
