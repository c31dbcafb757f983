import StyleLexer.Scanner
import StyleLexer.Proofs.LexemeShape
import StyleLexer.Proofs.TriviaRuns

/-!
# Passages

Which lexemes a text has does not depend on their kinds. `Passage first tokens last` says
that reading on from the cursor `first` goes over exactly these tokens to the cursor
`last`; `exists_passage` takes every cursor to one where reading stops. The scanner follows
passages: `Scanner.next_of_lexeme` and `Scanner.next_of_stop` say all that it does from a
cursor on, and later modules use no other fact about its steps.
-/

namespace StyleLexer

/-- What stands at a cursor that has no trivia in front of it. -/
inductive Finding where
  | lexeme (lexeme : Lexeme) (rest : List Char)
  /-- The end of the text, or the cause why nothing can be read. -/
  | stop (cause : Option Cause)

/-- What stands at a cursor, provided that it is no trivia. -/
def Cursor.finding (cursor : Cursor) : Finding :=
  if Trivia.opensBlockComment cursor.rest then .stop (some .unclosedComment)
  else
    match cursor.rest with
    | [] => .stop none
    | first :: text =>
        match Lexeme.read first text with
        | .error cause => .stop (some cause)
        | .ok (lexeme, rest) => .lexeme lexeme rest

/-- Every lexeme that fits has some text. -/
theorem Lexeme.source_ne_nil {rest : List Char} {lexeme : Lexeme} (fits : lexeme.Fits rest) :
    lexeme.source ≠ [] := by
  cases lexeme with
  | number digits => exact fits.1
  | word text => exact fits.1.1
  | _ => simp [source]

/-- A lexeme stands where its text does, if it fits there and no comment opens. -/
theorem Cursor.finding_eq_lexeme_iff {cursor : Cursor} {lexeme : Lexeme} {rest : List Char} :
    cursor.finding = .lexeme lexeme rest ↔
      Trivia.opensBlockComment cursor.rest = false ∧
        cursor.rest = lexeme.source ++ rest ∧ lexeme.Fits rest := by
  unfold finding
  constructor
  · intro found
    split at found
    · cases found
    · rename_i noComment
      split at found
      · cases found
      · rename_i first text behind
        split at found
        · cases found
        · rename_i reading
          cases found
          obtain ⟨whole, fits⟩ := Lexeme.read_eq_ok_iff.mp reading
          exact ⟨by simpa using noComment, behind.trans whole, fits⟩
  · rintro ⟨noComment, whole, fits⟩
    rw [if_neg (by simp [noComment])]
    split
    · rename_i empty
      rw [empty] at whole
      exact absurd (List.append_eq_nil_iff.mp whole.symm).1 (Lexeme.source_ne_nil fits)
    · rename_i first text behind
      rw [behind] at whole
      rw [Lexeme.read_of_fits fits whole]

/-- Reading stops without a cause only at the end of the text. -/
theorem Cursor.finding_eq_stop_none_iff {cursor : Cursor} :
    cursor.finding = .stop none ↔ cursor.rest = [] := by
  unfold finding
  constructor
  · intro found
    split at found
    · cases found
    · split at found
      · assumption
      · split at found <;> cases found
  · intro empty
    simp [empty, Trivia.opensBlockComment]

/-- A lexeme together with the byte offset where it begins. -/
structure Token where
  lexeme : Lexeme
  offset : Nat
deriving DecidableEq, Repr

/-- The byte offset behind a token. -/
def Token.finish (token : Token) : Nat :=
  token.offset + byteSize token.lexeme.source

/-- The same lexeme further on in a text. -/
def Token.shift (bytes : Nat) (token : Token) : Token where
  lexeme := token.lexeme
  offset := bytes + token.offset

@[simp] theorem Token.shift_zero : shift 0 = id := by
  funext token
  simp [shift]

/-- Reading on from the first cursor goes over the tokens, and over the trivia in front of
each, to the last cursor. -/
inductive Passage : Cursor → List Token → Cursor → Prop where
  | here {cursor : Cursor} : Passage cursor [] cursor
  | more {cursor last : Cursor} {lexeme : Lexeme} {rest : List Char} {tokens : List Token}
      (found : (Trivia.skip cursor).finding = .lexeme lexeme rest)
      (later : Passage ((Trivia.skip cursor).move lexeme.source rest) tokens last) :
      Passage cursor (⟨lexeme, (Trivia.skip cursor).location.offset⟩ :: tokens) last

/-- A lexeme leaves less text than there was in front of it. -/
theorem Cursor.length_of_finding {cursor : Cursor} {lexeme : Lexeme} {rest : List Char}
    (found : (Trivia.skip cursor).finding = .lexeme lexeme rest) :
    rest.length < cursor.rest.length := by
  obtain ⟨_, whole, fits⟩ := finding_eq_lexeme_iff.mp found
  have shorter := Trivia.length_skip_le cursor
  have positive := List.length_pos_iff.mpr (Lexeme.source_ne_nil fits)
  rw [whole, List.length_append] at shorter
  omega

/-- Every cursor leads to one where reading stops. -/
theorem exists_passage (cursor : Cursor) :
    ∃ tokens last cause, Passage cursor tokens last ∧
      (Trivia.skip last).finding = .stop cause := by
  cases found : (Trivia.skip cursor).finding with
  | stop cause => exact ⟨[], cursor, cause, .here, found⟩
  | lexeme lexeme rest =>
      have shorter := Cursor.length_of_finding found
      obtain ⟨tokens, last, cause, later, stops⟩ :=
        exists_passage ((Trivia.skip cursor).move lexeme.source rest)
      exact ⟨_, last, cause, .more found later, stops⟩
termination_by cursor.rest.length

/-- The item that ends a stream at a cursor: at the end of the text, or at a fault there. -/
def Cursor.closing (cursor : Cursor) : Option Cause → Item
  | none => .ofEnd cursor.location
  | some cause => .ofFault { cause, location := cursor.location }

/-- The place behind the item that ends a stream. A fault leaves it as it was. -/
def Place.closing (place : Place) : Option Cause → Place
  | none => .following .endOfText ""
  | some _ => place

namespace Scanner

/-- A step that yields an item decides what comes next. -/
theorem next_of_yield {scanner after : Scanner} {item : Item}
    (yields : scanner.step = .yield item after) : scanner.next = (item, after) := by
  rw [next]
  split
  · rename_i stepped
    cases yields.symm.trans stepped
    rfl
  · rename_i stepped
    cases yields.symm.trans stepped

/-- A silent step changes nothing about what comes next. -/
theorem next_of_silent {scanner after : Scanner} (silent : scanner.step = .silent after) :
    scanner.next = after.next := by
  rw [next]
  split
  · rename_i stepped
    cases silent.symm.trans stepped
  · rename_i stepped
    cases silent.symm.trans stepped
    rfl

section Reading

variable {scanner : Scanner} {first : Char} {text : List Char}

/-- A scanner that reads hands out the lexeme that can be read. -/
theorem step_of_read_ok {lexeme : Lexeme} {rest : List Char} (reading : scanner.phase = .reading)
    (whole : scanner.cursor.rest = first :: text)
    (read : Lexeme.read first text = .ok (lexeme, rest)) :
    scanner.step = scanner.emit lexeme rest := by
  simp [step, reading, readLexeme, whole, read]

/-- A scanner that reads hands out the fault where no lexeme can be read. -/
theorem step_of_read_error {cause : Cause} (reading : scanner.phase = .reading)
    (whole : scanner.cursor.rest = first :: text) (read : Lexeme.read first text = .error cause) :
    scanner.step = scanner.stop cause := by
  simp [step, reading, readLexeme, whole, read]

end Reading

variable {cursor : Cursor} (place : Place)

/-- A scanner that reads where no comment opens hands out the lexeme there. -/
theorem next_of_reading {lexeme : Lexeme} {rest : List Char}
    (found : cursor.finding = .lexeme lexeme rest) :
    next { cursor, place, phase := .reading } =
      let behind := cursor.move lexeme.source rest
      let item := lexeme.item place cursor.location behind
      (item, { cursor := behind, place := .following item.kind item.value }) := by
  obtain ⟨_, whole, fits⟩ := Cursor.finding_eq_lexeme_iff.mp found
  cases ahead : cursor.rest with
  | nil =>
      rw [ahead] at whole
      exact absurd (List.append_eq_nil_iff.mp whole.symm).1 (Lexeme.source_ne_nil fits)
  | cons first text =>
      rw [ahead] at whole
      exact next_of_yield (step_of_read_ok rfl ahead (Lexeme.read_of_fits fits whole))

/-- A scanner that finds a lexeme behind the trivia hands it out. -/
theorem next_of_lexeme {lexeme : Lexeme} {rest : List Char}
    (found : (Trivia.skip cursor).finding = .lexeme lexeme rest) :
    next { cursor, place } =
      let behind := (Trivia.skip cursor).move lexeme.source rest
      let item := lexeme.item place (Trivia.skip cursor).location behind
      (item, { cursor := behind, place := .following item.kind item.value }) := by
  obtain ⟨noComment, whole, fits⟩ := Cursor.finding_eq_lexeme_iff.mp found
  have silent : step { cursor, place } =
      .silent { cursor := Trivia.skip cursor, place, phase := .reading } := by
    have nonempty : (Trivia.skip cursor).rest ≠ [] := by
      rw [whole]
      exact fun empty => Lexeme.source_ne_nil fits (List.append_eq_nil_iff.mp empty).1
    simp [step, settle, noComment, nonempty]
  rw [next_of_silent silent, next_of_reading place found]

/-- A scanner that finds no lexeme behind the trivia hands out the last item. -/
theorem next_of_stop {cause : Option Cause}
    (found : (Trivia.skip cursor).finding = .stop cause) :
    ∃ after, next { cursor, place } = ((Trivia.skip cursor).closing cause, after) ∧
      after.place = place.closing cause := by
  unfold Cursor.finding at found
  split at found
  · rename_i comment
    cases found
    have yields : step { cursor, place } =
        stop { cursor := Trivia.skip cursor, place } .unclosedComment := by
      simp only [step, settle]
      rw [if_pos comment]
    exact ⟨_, next_of_yield yields, rfl⟩
  · rename_i noComment
    split at found
    · rename_i empty
      cases found
      have yields : step { cursor, place } =
          finish { cursor := Trivia.skip cursor, place } := by
        simp only [step, settle]
        rw [if_neg noComment, if_pos (by rw [empty]; rfl)]
      have atEnd : (Trivia.skip cursor).toEnd.location = (Trivia.skip cursor).location := by
        simp [Cursor.toEnd, Cursor.move, empty]
      exact ⟨_, (next_of_yield yields).trans (by rw [atEnd]; rfl), rfl⟩
    · rename_i first text behind
      split at found
      · rename_i cause reading
        cases found
        have silent : step { cursor, place } =
            .silent { cursor := Trivia.skip cursor, place, phase := .reading } := by
          simp only [step, settle]
          rw [if_neg noComment, if_neg (by rw [behind]; simp)]
        have yields : step { cursor := Trivia.skip cursor, place, phase := .reading } =
            stop { cursor := Trivia.skip cursor, place, phase := .reading } cause :=
          step_of_read_error rfl behind reading
        exact ⟨_, (next_of_silent silent).trans (next_of_yield yields), rfl⟩
      · cases found

end Scanner

end StyleLexer
