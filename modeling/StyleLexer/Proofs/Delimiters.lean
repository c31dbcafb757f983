import StyleLexer.Proofs.FaultCauses
import StyleLexer.Proofs.Origins

/-!
# Delimited lexemes

Interpolations and quoted literals are read alike: from an opening text up to the first closing
character that has a whole body in front of it. A `Delimiter` is what the two differ in, with the
laws of its lexemes, and `Delimiter.Reads` is all that a scanner does where such a text opens, both
where something closes it and where nothing does. The two main results are about the scanners that
can be reached: `interpolation_read_to_matching_brace` and `quoted_literal_read_to_its_quote`.
-/

namespace StyleLexer

namespace Scanner

/-- The scanner of a stream over the text, after any number of steps. -/
def Reached (expected : Option Category) (text : String) (scanner : Scanner) : Prop :=
  ∃ count, scanner = afterSteps count (ItemStream.expecting expected text).scanner

/-- The scanner stands in the text, unless it has finished. -/
def Inside (text : List Char) (scanner : Scanner) : Prop :=
  scanner.phase = .finished ∨ scanner.cursor.StandsIn text

variable {text : List Char} {scanner : Scanner}

/-- One step does not leave the text. -/
theorem Inside.step (inside : scanner.Inside text) : scanner.step.after.Inside text := by
  rcases inside with finished | stands
  · refine .inl ?_
    simp [Scanner.step, finished, finish, Step.after]
  · have moves := scanner.moves_step
    generalize scanner.step = step at moves
    cases moves with
    | ends cursor => exact .inl rfl
    | fails cause cursor => exact .inl rfl
    | rests => exact .inl rfl
    | seeks seeking noComment => exact .inr stands.skip
    | @reads first later rest lexeme behind item reading whole read moved isItem =>
        obtain ⟨source, _⟩ := Lexeme.read_eq_ok_iff.mp read
        rw [moved]
        exact .inr (stands.move (whole.trans source))

/-- Any number of steps do not leave the text. -/
theorem Inside.afterSteps (inside : scanner.Inside text) (count : Nat) :
    (afterSteps count scanner).Inside text := by
  induction count generalizing scanner with
  | zero => exact inside
  | succ count inductionHypothesis => exact inductionHypothesis inside.step

/-- A scanner that is reached and reads stands in its text. -/
theorem Reached.standsIn {expected : Option Category} {text : String}
    (reached : scanner.Reached expected text) (reading : scanner.phase = .reading) :
    scanner.cursor.StandsIn text.toList := by
  obtain ⟨count, rfl⟩ := reached
  obtain ⟨start, started, atStart, _⟩ := ItemStream.exists_scanner_of_expecting expected text
  rw [started] at reading ⊢
  have inside : start.Inside text.toList := by
    refine .inr ?_
    rw [atStart]
    exact Cursor.standsIn_ofText text.toList
  rcases inside.afterSteps count with finished | stands
  · cases reading.symm.trans finished
  · exact stands

end Scanner

/-- What opens and closes the lexemes of a category, and what may stand between. -/
structure Delimiter where
  opening : List Char
  close : Char
  /-- The size of the opening text. -/
  lead : Nat
  IsBody : List Char → Prop
  /-- The kind of the item with this body. -/
  kind : List Char → Kind
  /-- The cause of the fault where nothing closes. -/
  cause : Cause
  lexeme : List Char → Lexeme
  source_lexeme : ∀ body, (lexeme body).source = opening ++ body ++ [close]
  item_lexeme : ∀ body place start behind, (lexeme body).item place start behind =
    { kind := kind body, value := .ofList body, offset := start.offset + lead }
  fits_iff : ∀ body rest, (lexeme body).Fits rest ↔ IsBody body
  explains : ∀ later, (∀ body, IsBody body → ¬ body ++ [close] <+: later) →
    cause.Explains (opening ++ later)
  cause_ne : cause ≠ .unclosedComment
  opening_ne_nil : opening ≠ []

namespace Delimiter

/-- The delimiter of interpolations. -/
def interpolation : Delimiter where
  opening := ['#', '\x7b']
  close := '\x7d'
  lead := 2
  IsBody := Interpolation.Body
  kind _ := .reference
  cause := .unclosedInterpolation
  lexeme := .interpolation
  source_lexeme _ := rfl
  item_lexeme _ _ _ _ := rfl
  fits_iff _ _ := Iff.rfl
  explains later unclosed := ⟨later, rfl, unclosed⟩
  cause_ne same := Cause.noConfusion same
  opening_ne_nil := List.cons_ne_nil _ _

/-- The delimiter of literals that a quote opens. -/
def quoted (quote : Char) (opens : Quoted.isQuote quote = true) : Delimiter where
  opening := [quote]
  close := quote
  lead := 1
  IsBody := Quoted.Body quote
  kind := Literal.kind
  cause := .unclosedQuote
  lexeme := .quoted quote
  source_lexeme _ := rfl
  item_lexeme _ _ _ _ := rfl
  fits_iff _ _ := and_iff_right opens
  explains later unclosed := ⟨quote, later, rfl, opens, unclosed⟩
  cause_ne same := Cause.noConfusion same
  opening_ne_nil := List.cons_ne_nil _ _

/-- What a scanner does that reads where a delimiter opens, behind `before` and in front of
`later`. -/
structure Reads (delimiter : Delimiter) (scanner : Scanner) (before later : List Char) :
    Prop where
  unique {body body' rest rest' : List Char} (isBody : delimiter.IsBody body)
    (isBody' : delimiter.IsBody body') (whole : later = body ++ delimiter.close :: rest)
    (whole' : later = body' ++ delimiter.close :: rest') : body = body' ∧ rest = rest'
  closed {body rest : List Char} (isBody : delimiter.IsBody body)
    (whole : later = body ++ delimiter.close :: rest) :
    scanner.next =
      ({ kind := delimiter.kind body, value := .ofList body,
         offset := byteSize before + delimiter.lead },
       { cursor := .between (before ++ delimiter.opening ++ body ++ [delimiter.close]) rest,
         place := .following (delimiter.kind body) (.ofList body) })
  unclosed (nowhere : ∀ body rest, delimiter.IsBody body →
      later ≠ body ++ delimiter.close :: rest) :
    scanner.next =
      (.ofFault { cause := delimiter.cause,
                  location := .locate (before ++ delimiter.opening ++ later) (byteSize before) },
       { scanner with phase := .finished })

variable (delimiter : Delimiter)

/-- A lexeme of the delimiter is read where something closes it. -/
theorem read_eq_ok {first : Char} {text body rest : List Char} (isBody : delimiter.IsBody body)
    (whole : first :: text = delimiter.opening ++ (body ++ delimiter.close :: rest)) :
    Lexeme.read first text = .ok (delimiter.lexeme body, rest) := by
  refine Lexeme.read_of_fits ((delimiter.fits_iff body rest).mpr isBody) ?_
  rw [whole, delimiter.source_lexeme]
  simp

/-- A fault is read where nothing closes it. -/
theorem read_eq_error {first : Char} {text later : List Char}
    (nowhere : ∀ body rest, delimiter.IsBody body → later ≠ body ++ delimiter.close :: rest)
    (whole : first :: text = delimiter.opening ++ later) :
    Lexeme.read first text = .error delimiter.cause := by
  refine Lexeme.read_of_explains delimiter.cause_ne ?_
  rw [whole]
  apply delimiter.explains
  rintro body isBody ⟨rest, rfl⟩
  exact nowhere body rest isBody (by simp)

/-- A scanner that reads where the delimiter opens does what the delimiter asks for. -/
theorem reads {scanner : Scanner} {before later : List Char} (reading : scanner.phase = .reading)
    (stands : scanner.cursor = .between before (delimiter.opening ++ later)) :
    delimiter.Reads scanner before later := by
  obtain ⟨first, text, opening⟩ : ∃ first text, delimiter.opening ++ later = first :: text :=
    List.exists_cons_of_ne_nil (by simp [delimiter.opening_ne_nil])
  have ahead : scanner.cursor.rest = first :: text := by
    rw [stands, Cursor.between_rest, opening]
  constructor
  · -- Either body is the one that is read, so what is behind them is the same.
    rintro body body' rest rest' isBody isBody' rfl whole'
    have read := delimiter.read_eq_ok isBody opening.symm
    have read' := delimiter.read_eq_ok isBody' (whole' ▸ opening.symm)
    obtain ⟨_, rfl⟩ := Prod.mk.inj (Except.ok.inj (read.symm.trans read'))
    exact ⟨List.append_cancel_right whole', rfl⟩
  · rintro body rest isBody rfl
    have read := delimiter.read_eq_ok isBody opening.symm
    have source : delimiter.opening ++ (body ++ delimiter.close :: rest) =
        (delimiter.lexeme body).source ++ rest := by
      simp [delimiter.source_lexeme]
    have behind : before ++ (delimiter.lexeme body).source =
        before ++ delimiter.opening ++ body ++ [delimiter.close] := by
      simp [delimiter.source_lexeme]
    rw [source] at stands
    rw [Scanner.next_of_yield (Scanner.step_of_read_ok reading ahead read)]
    simp only [stands, Cursor.between_move, behind, delimiter.item_lexeme, Cursor.between_offset]
  · intro nowhere
    have read := delimiter.read_eq_error nowhere opening.symm
    have located := Location.locate_byteSize before (delimiter.opening ++ later)
    rw [← List.append_assoc] at located
    rw [Scanner.next_of_yield (Scanner.step_of_read_error reading ahead read), located, stands]
    rfl

/-- A scanner that is reached does so wherever it reads and the delimiter opens. -/
theorem exists_reads {expected : Option Category} {text : String} {scanner : Scanner}
    {later : List Char} (reached : scanner.Reached expected text)
    (reading : scanner.phase = .reading)
    (opens : scanner.cursor.rest = delimiter.opening ++ later) :
    ∃ before, text.toList = before ++ delimiter.opening ++ later ∧
      scanner.cursor = .between before (delimiter.opening ++ later) ∧
      delimiter.Reads scanner before later := by
  obtain ⟨before, after, whole, stands⟩ := reached.standsIn reading
  rw [stands, Cursor.between_rest] at opens
  subst opens
  exact ⟨before, by rw [whole, List.append_assoc], stands, delimiter.reads reading stands⟩

end Delimiter

namespace Interpolation

/-- What a scanner does that reads an interpolation. A quoted run is passed as a whole, so the text
behind it has to close the braces that are open in front of it and no others. -/
structure Reads (scanner : Scanner) (before later : List Char) : Prop extends
    Delimiter.interpolation.Reads scanner before later where
  quotedRun {depth : Nat} {front run behind body rest : List Char} {quote : Char}
    (isFront : Opens depth front) (opens : Quoted.isQuote quote = true)
    (inside : Quoted.Body quote run)
    (whole : later = front ++ (quote :: run ++ [quote]) ++ behind) :
    Body body ∧ later = body ++ '\x7d' :: rest ↔
      ∃ inner, Nest depth inner ∧ body = front ++ (quote :: run ++ [quote]) ++ inner ∧
        behind = inner ++ '\x7d' :: rest
  openQuote {depth : Nat} {front behind : List Char} {quote : Char} (isFront : Opens depth front)
    (opens : Quoted.isQuote quote = true) (whole : later = front ++ quote :: behind)
    (unclosed : ∀ run, Quoted.Body quote run → ¬ run ++ [quote] <+: behind) :
    scanner.next.1 =
      .ofFault { cause := .unclosedInterpolation,
                 location := .locate (before ++ ['#', '\x7b'] ++ later) (byteSize before) }

end Interpolation

/-- The text that an interpolation opens with. -/
theorem Category.exists_of_ofText?_interpolation {text : List Char}
    (opens : ofText? text = some .interpolation) : ∃ later, text = ['#', '\x7b'] ++ later := by
  cases text with
  | nil => cases opens
  | cons first text =>
      obtain ⟨rfl, brace⟩ := eq_of_opening_interpolation (Option.some.inj opens)
      obtain ⟨later, rfl⟩ := List.head?_eq_some_iff.mp brace
      exact ⟨later, rfl⟩

/-- Where an interpolation opens, a scanner reads up to the brace that matches, or finds none. -/
theorem interpolation_read_to_matching_brace {expected : Option Category} {text : String}
    {scanner : Scanner} (reached : scanner.Reached expected text)
    (reading : scanner.phase = .reading)
    (opens : Category.ofText? scanner.cursor.rest = some .interpolation) :
    ∃ before later, text.toList = before ++ ['#', '\x7b'] ++ later ∧
      scanner.cursor = .between before (['#', '\x7b'] ++ later) ∧
      Interpolation.Reads scanner before later := by
  obtain ⟨later, ahead⟩ := Category.exists_of_ofText?_interpolation opens
  obtain ⟨before, whole, stands, reads⟩ :=
    Delimiter.interpolation.exists_reads reached reading ahead
  refine ⟨before, later, whole, stands, reads, ?_, ?_⟩
  · rintro depth front run behind body rest quote isFront opens inside rfl
    have isRun : Interpolation.Body (quote :: run ++ [quote]) := .quoted opens inside .empty
    exact (isFront.append_body isRun).closes_iff
  · rintro depth front behind quote isFront opens rfl unclosed
    rw [reads.unclosed (isFront.not_closed opens unclosed)]
    rfl

/-- A brace in a quoted run closes nothing. -/
theorem interpolation_read_over_quoted_brace :
    ∃ scanner, Scanner.Reached none "a #\x7bb'\x7d'\x7d c" scanner ∧ scanner.phase = .reading ∧
      Category.ofText? scanner.cursor.rest = some .interpolation ∧
      scanner.next.1 = { kind := .reference, value := "b'\x7d'", offset := 4 } := by
  generalize isScanner :
    Scanner.afterSteps 3 (ItemStream.expecting none "a #\x7bb'\x7d'\x7d c").scanner = scanner
  have reached : scanner.Reached none "a #\x7bb'\x7d'\x7d c" := ⟨3, isScanner.symm⟩
  have reading : scanner.phase = .reading := by
    rw [← isScanner]
    decide +kernel
  have ahead : scanner.cursor.rest = ['#', '\x7b'] ++ "b'\x7d'\x7d c".toList := by
    rw [← isScanner]
    decide +kernel
  have start : scanner.cursor.location.offset = 2 := by
    rw [← isScanner]
    decide +kernel
  have opens : Category.ofText? scanner.cursor.rest = some .interpolation := by
    rw [ahead]
    rfl
  refine ⟨scanner, reached, reading, opens, ?_⟩
  obtain ⟨before, later, _, stands, reads⟩ :=
    interpolation_read_to_matching_brace reached reading opens
  rw [stands, Cursor.between_rest] at ahead
  obtain rfl := List.append_cancel_left ahead
  rw [stands, Cursor.between_offset] at start
  have run : Quoted.Body '\x27' ['\x7d'] := .plain (by decide) (by decide) .empty
  have isBody : Interpolation.Body ['b', '\x27', '\x7d', '\x27'] :=
    .plain (by decide) (by decide) rfl (.quoted rfl run .empty)
  have whole : "b'\x7d'\x7d c".toList =
      ['b', '\x27', '\x7d', '\x27'] ++ '\x7d' :: [' ', 'c'] := rfl
  rw [reads.closed isBody whole, start]
  rfl

/-- A quoted literal and nothing else is read as the body between the quotes. -/
theorem items_of_quoted {quote : Char} {body : List Char} (opens : Quoted.isQuote quote = true)
    (inside : Quoted.Body quote body) :
    items (.ofList (quote :: body ++ [quote])) =
      .ok [{ kind := Literal.kind body, value := .ofList body, offset := 1 }] := by
  have start : Cursor.ofText (String.ofList (quote :: body ++ [quote])).toList =
      .between [] (quote :: body ++ [quote]) := by
    rw [String.toList_ofList]
    obtain rfl | rfl := Quoted.isQuote_iff.mp opens
    · rfl
    · rfl
  have clear : Trivia.opens none (quote :: body ++ [quote]) = false := by
    obtain rfl | rfl := Quoted.isQuote_iff.mp opens
    · rfl
    · rfl
  obtain ⟨noTrivia, noComment⟩ := Trivia.opens_eq_false_iff.mp clear
  have stays : Trivia.skip (.between [] (quote :: body ++ [quote])) =
      .between [] (quote :: body ++ [quote]) :=
    Trivia.skip_of_first?_eq_none noTrivia
  have found : (Trivia.skip (.between [] (quote :: body ++ [quote]))).finding =
      .lexeme (.quoted quote body) [] := by
    rw [stays]
    exact Cursor.finding_eq_lexeme_iff.mpr ⟨noComment, (List.append_nil _).symm, opens, inside⟩
  have ends : (Trivia.skip ((Trivia.skip (.between [] (quote :: body ++ [quote]))).move
      (Lexeme.quoted quote body).source [])).finding = .stop none := by
    rw [Trivia.skip_of_first?_eq_none rfl]
    rfl
  rw [items, Scanner.ofText, start, Scanner.items_of_passage (.more found .here) ends, stays]
  rfl

/-- Where a quote opens a literal, a scanner reads up to the quote that closes it, or finds none;
and every body is read back from between its quotes. -/
theorem quoted_literal_read_to_its_quote {quote : Char} (opens : Quoted.isQuote quote = true) :
    (∀ {expected : Option Category} {text : String} {scanner : Scanner},
      scanner.Reached expected text → scanner.phase = .reading →
      scanner.cursor.rest.head? = some quote →
      ∃ before later, text.toList = before ++ [quote] ++ later ∧
        scanner.cursor = .between before ([quote] ++ later) ∧
        (Delimiter.quoted quote opens).Reads scanner before later) ∧
    ∀ {body : List Char}, Quoted.Body quote body →
      items (.ofList (quote :: body ++ [quote])) =
        .ok [{ kind := Literal.kind body, value := .ofList body, offset := 1 }] := by
  refine ⟨?_, items_of_quoted opens⟩
  intro expected text scanner reached reading head
  obtain ⟨later, ahead⟩ := List.head?_eq_some_iff.mp head
  obtain ⟨before, reads⟩ := (Delimiter.quoted quote opens).exists_reads reached reading ahead
  exact ⟨before, later, reads⟩

/-- An escaped quote closes nothing. -/
theorem quoted_literal_read_over_escaped_quote :
    Quoted.isQuote '\x27' = true ∧
      (∃ scanner, Scanner.Reached none "x 'a\\'b' y" scanner ∧ scanner.phase = .reading ∧
        scanner.cursor.rest.head? = some '\x27' ∧
        scanner.next.1 = { kind := .text, value := "a\\'b", offset := 3 }) ∧
      items "'a\\'b'" = .ok [{ kind := .text, value := "a\\'b", offset := 1 }] := by
  have opens : Quoted.isQuote '\x27' = true := rfl
  have isBody : Quoted.Body '\x27' "a\\'b".toList :=
    .plain (by decide) (by decide) (.escaped '\x27' (.plain (by decide) (by decide) .empty))
  obtain ⟨onScanners, onBodies⟩ := quoted_literal_read_to_its_quote opens
  refine ⟨opens, ?_, onBodies isBody⟩
  generalize isScanner :
    Scanner.afterSteps 3 (ItemStream.expecting none "x 'a\\'b' y").scanner = scanner
  have reached : scanner.Reached none "x 'a\\'b' y" := ⟨3, isScanner.symm⟩
  have reading : scanner.phase = .reading := by
    rw [← isScanner]
    decide +kernel
  have ahead : scanner.cursor.rest = ['\x27'] ++ "a\\'b' y".toList := by
    rw [← isScanner]
    decide +kernel
  have start : scanner.cursor.location.offset = 2 := by
    rw [← isScanner]
    decide +kernel
  have head : scanner.cursor.rest.head? = some '\x27' := by
    rw [ahead]
    rfl
  refine ⟨scanner, reached, reading, head, ?_⟩
  obtain ⟨before, later, _, stands, reads⟩ := onScanners reached reading head
  rw [stands, Cursor.between_rest] at ahead
  obtain rfl := List.append_cancel_left ahead
  rw [stands, Cursor.between_offset] at start
  have whole : "a\\'b' y".toList = "a\\'b".toList ++ '\x27' :: [' ', 'y'] := rfl
  rw [reads.closed isBody whole, start]
  rfl

end StyleLexer
