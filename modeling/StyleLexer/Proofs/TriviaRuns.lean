import StyleLexer.Proofs.ScanEnds

/-!
# Runs of trivia

`Trivia.first?_eq_some_iff` says exactly which element `Trivia.first?` finds, and
`Trivia.skip_eq_move_iff` exactly how far `Trivia.skip` goes: over a run of trivia behind
which no further element fits. A run looks at the character in front of it only through
`opensLineComment`, and at the text behind it only through the first character; the laws
about the same run in other texts rest on these two facts.
-/

namespace StyleLexer.Trivia

/-- An element that is found fits where it stands. -/
theorem fits_of_first? {previous : Option Char} {text rest : List Char} {element : Element}
    (found : first? previous text = some (element, rest)) : element.Fits previous rest := by
  unfold first? at found
  split at found
  · simp only [Option.map_eq_some_iff, Prod.exists, Prod.mk.injEq] at found
    obtain ⟨body, after, split, rfl, rfl⟩ := found
    exact not_close_of_splitAtClose? split
  · rename_i comment
    split at found
    · rename_i opens
      simp only [Option.some.injEq, Prod.mk.injEq] at found
      obtain ⟨rfl, rfl⟩ := found
      refine ⟨opens, ?_, ?_⟩
      · intro feed
        have inside := List.all_eq_true.mp (List.all_takeWhile (p := (· != '\n'))) _ feed
        simp at inside
      · cases behind : comment.dropWhile (· != '\n') with
        | nil => exact .inl rfl
        | cons c after =>
            have feed := stop_of_dropWhile (c := c) (by rw [behind]; rfl)
            exact .inr (by simpa using feed)
    · cases found
  · split at found
    · rename_i blank
      simp only [Option.some.injEq, Prod.mk.injEq] at found
      obtain ⟨rfl, rfl⟩ := found
      exact blank
    · cases found
  · cases found

/-- An element that fits is found. -/
theorem first?_source_append {previous : Option Char} {rest : List Char} {element : Element}
    (fits : element.Fits previous rest) :
    first? previous (element.source ++ rest) = some (element, rest) := by
  cases element with
  | blank c =>
      have blank : Unicode.isWhitespace c = true := fits
      have notSlash : c ≠ '/' := by
        rintro rfl
        cases blank
      simp [Element.source, first?, notSlash, blank]
  | blockComment body => simp [Element.source, first?, splitAtClose?_append fits]
  | lineComment body =>
      obtain ⟨opens, oneLine, stop⟩ := fits
      have inside : ∀ c ∈ body, (c != '\n') = true := by
        intro c member
        simpa using fun same : c = '\n' => oneLine (same ▸ member)
      have outside : ∀ c, rest.head? = some c → (c != '\n') = false := by
        intro c head
        rcases stop with rfl | feed
        · cases head
        · simpa using Option.some.inj (head.symm.trans feed)
      obtain ⟨taken, dropped⟩ := takeWhile_eq_of_stop inside outside
      simp [Element.source, first?, opens, taken, dropped]

/-- The element at the front of a text is the one that fits there. -/
theorem first?_eq_some_iff {previous : Option Char} {text rest : List Char}
    {element : Element} :
    first? previous text = some (element, rest) ↔
      text = element.source ++ rest ∧ element.Fits previous rest := by
  constructor
  · intro found
    exact ⟨(append_of_first? found).symm, fits_of_first? found⟩
  · rintro ⟨rfl, fits⟩
    exact first?_source_append fits

/-- Skipping stays where no element fits. -/
theorem skip_of_first?_eq_none {cursor : Cursor}
    (stops : first? cursor.previous cursor.rest = none) : skip cursor = cursor := by
  rw [skip]
  split
  · rfl
  · rename_i found
    cases stops.symm.trans found

/-- Skipping passes an element that is found. -/
theorem skip_of_first? {cursor : Cursor} {element : Element} {rest : List Char}
    (found : first? cursor.previous cursor.rest = some (element, rest)) :
    skip cursor = skip (cursor.move element.source rest) := by
  rw [skip]
  split
  · rename_i stops
    cases stops.symm.trans found
  · rename_i element' rest' found'
    cases found.symm.trans found'
    rfl

/-- Nothing fits where skipping has stopped. -/
theorem first?_skip (cursor : Cursor) :
    first? (skip cursor).previous (skip cursor).rest = none := by
  fun_induction skip cursor with
  | case1 cursor stops => exact stops
  | case2 cursor element rest found inductionHypothesis => exact inductionHypothesis

/-- Skipping again goes no further. -/
@[simp] theorem skip_skip (cursor : Cursor) : skip (skip cursor) = skip cursor :=
  skip_of_first?_eq_none (first?_skip cursor)

/-- Skipping passes a run of trivia. -/
theorem exists_run_skip (cursor : Cursor) :
    ∃ trivia, Run (skip cursor).rest cursor.previous trivia ∧
      cursor.rest = trivia ++ (skip cursor).rest ∧
      skip cursor = cursor.move trivia (skip cursor).rest := by
  fun_induction skip cursor with
  | case1 cursor _ => exact ⟨[], .empty, rfl, rfl⟩
  | case2 cursor element rest found inductionHypothesis =>
      obtain ⟨trivia, run, whole, moved⟩ := inductionHypothesis
      obtain ⟨text, fits⟩ := first?_eq_some_iff.mp found
      rw [Cursor.move_rest] at whole
      refine ⟨element.source ++ trivia, ?_, ?_, ?_⟩
      · exact .more (whole ▸ fits) run
      · rw [text, List.append_assoc, ← whole]
      · rw [moved, Cursor.move_move]
        rfl

/-- A run is passed whole when nothing fits behind it. -/
theorem skip_of_run {rest trivia : List Char} {previous : Option Char}
    (run : Run rest previous trivia)
    (stops : first? (trivia.getLast?.or previous) rest = none) {cursor : Cursor}
    (front : cursor.previous = previous) (whole : cursor.rest = trivia ++ rest) :
    skip cursor = cursor.move trivia rest := by
  induction run generalizing cursor with
  | empty =>
      have same : cursor.move [] rest = cursor := by
        cases cursor
        simp_all [Cursor.move]
      rw [same]
      apply skip_of_first?_eq_none
      rw [front, whole]
      exact stops
  | @more previous element later fits _ inductionHypothesis =>
      have found : first? cursor.previous cursor.rest = some (element, later ++ rest) :=
        first?_eq_some_iff.mpr ⟨by rw [whole, List.append_assoc], front ▸ fits⟩
      rw [skip_of_first? found, inductionHypothesis ?_ ?_ ?_, Cursor.move_move]
      · rwa [List.getLast?_append, Option.or_assoc] at stops
      · simp [Cursor.move, front]
      · rfl

/-- How far skipping goes, without the scan. -/
theorem skip_eq_move_iff {cursor : Cursor} {trivia rest : List Char}
    (whole : cursor.rest = trivia ++ rest) :
    skip cursor = cursor.move trivia rest ↔
      Run rest cursor.previous trivia ∧
        first? (trivia.getLast?.or cursor.previous) rest = none := by
  constructor
  · intro skipped
    obtain ⟨passed, run, text, moved⟩ := exists_run_skip cursor
    have stops := first?_skip cursor
    rw [skipped] at run text stops
    rw [Cursor.move_rest, whole] at text
    obtain rfl := List.append_cancel_right text
    exact ⟨run, stops⟩
  · rintro ⟨run, stops⟩
    exact skip_of_run run stops rfl whole

section OtherSurroundings

variable {front front' : Option Char} {behind behind' : List Char}

/-- Whether an element fits depends on what stands around it in two respects only. -/
theorem Element.Fits.congr {element : Element} (fits : element.Fits front behind)
    (sameFront : opensLineComment front = opensLineComment front')
    (sameBehind : behind.head? = behind'.head?) : element.Fits front' behind' := by
  cases element with
  | blank c => exact fits
  | blockComment body => exact fits
  | lineComment body =>
      obtain ⟨opens, oneLine, stop⟩ := fits
      refine ⟨sameFront ▸ opens, oneLine, ?_⟩
      rw [← List.head?_eq_none_iff] at stop ⊢
      rwa [sameBehind] at stop

/-- A run of trivia is one wherever a line comment may open in front of it and the same
character, or none, stands behind it. -/
theorem Run.congr {trivia : List Char} (run : Run behind front trivia)
    (sameFront : opensLineComment front = opensLineComment front')
    (sameBehind : behind.head? = behind'.head?) : Run behind' front' trivia := by
  induction run generalizing front' with
  | empty => exact .empty
  | @more front element later fits _ inductionHypothesis =>
      refine .more (fits.congr sameFront ?_) (inductionHypothesis ?_)
      · rw [List.head?_append, List.head?_append, sameBehind]
      · rw [List.getLast?_eq_some_getLast element.source_ne_nil]
        rfl

/-- The search for an element sees no more of the front than whether a line comment may
open there. -/
theorem first?_congr (sameFront : opensLineComment front = opensLineComment front')
    (text : List Char) : first? front text = first? front' text := by
  unfold first?
  simp only [sameFront]

end OtherSurroundings

/-- A text begins with what belongs to no lexeme: a blank, or the mark of a comment, closed
or not. -/
def opens (front : Option Char) : List Char → Bool
  | [] => false
  | c :: text =>
      Unicode.isWhitespace c ||
        c == '/' && (text.head? == some '*' || text.head? == some '/' && opensLineComment front)

/-- Where trivia opens, either an element is found or a block comment is left open. -/
theorem opens_eq_false_iff {front : Option Char} {text : List Char} :
    opens front text = false ↔ first? front text = none ∧ opensBlockComment text = false := by
  have slash : Unicode.isWhitespace '/' = false := rfl
  match text with
  | [] => simp [opens, first?, opensBlockComment]
  | [c] => by_cases mark : c = '/' <;> simp [opens, first?, opensBlockComment, mark, slash]
  | c :: d :: text =>
      by_cases mark : c = '/'
      · subst mark
        by_cases star : d = '*'
        · simp [opens, opensBlockComment, star]
        · by_cases line : d = '/' <;>
            simp [opens, first?, opensBlockComment, slash, star, line]
      · simp [opens, first?, opensBlockComment, mark]

/-- No trivia opens at a text that differs only from some later character on, unless a
slash right before it becomes part of a mark. -/
theorem opens_append_eq_false {front : Option Char} {text behind behind' : List Char}
    (nonempty : text ≠ [])
    (noMark : text = ['/'] → ∀ c, behind'.head? = some c → c ≠ '*' ∧ c ≠ '/')
    (clear : opens front (text ++ behind) = false) : opens front (text ++ behind') = false := by
  match text, nonempty with
  | [c], _ =>
      simp only [List.singleton_append, opens, Bool.or_eq_false_iff] at clear ⊢
      refine ⟨clear.1, ?_⟩
      by_cases slash : c = '/'
      · have apart := noMark (by rw [slash])
        cases behind' with
        | nil => simp
        | cons d behind' =>
            obtain ⟨notStar, notSlash⟩ := apart d rfl
            simp [notStar, notSlash]
      · simp [slash]
  | c :: d :: text, _ => exact clear

end StyleLexer.Trivia
