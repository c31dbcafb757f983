import StyleLexer.Cursor
import StyleLexer.Unicode.Whitespace

/-!
# Trivia

Whitespace and comments separate items and belong to none. A block comment may stand
anywhere; two slashes open a line comment only where a statement could go on, so that an
address such as the one in `url(http://host/a.png)` keeps its slashes.

`Trivia.first?` reads one element and `Trivia.skip` passes as many as there are.
`Trivia.Run` says which texts are trivia, judging each element by the character before it
and by the text behind it.
-/

namespace StyleLexer.Trivia

/-- Two slashes behind this character, or at the start of the text, open a comment. -/
def opensLineComment (previous : Option Char) : Bool :=
  match previous with
  | none => true
  | some c =>
      Unicode.isWhitespace c || c == ';' || c == '\x7b' || c == '\x7d' || c == '\ufeff'

/-- One element of trivia. -/
inductive Element where
  | blank (c : Char)
  | blockComment (body : List Char)
  | lineComment (body : List Char)
deriving DecidableEq, Repr

/-- The text of an element. The line feed behind a line comment is not part of it. -/
def Element.source : Element → List Char
  | .blank c => [c]
  | .blockComment body => ['/', '*'] ++ body ++ ['*', '/']
  | .lineComment body => ['/', '/'] ++ body

/-- The element may stand behind `previous` and before `rest`: a blank is whitespace, a
block comment ends at the first mark that closes it, and a line comment has leave to open
and reaches to the end of its line. -/
def Element.Fits (previous : Option Char) (rest : List Char) : Element → Prop
  | .blank c => Unicode.isWhitespace c = true
  | .blockComment body => ¬ ['*', '/'] <:+: body ++ ['*']
  | .lineComment body =>
      opensLineComment previous = true ∧ '\n' ∉ body ∧ (rest = [] ∨ rest.head? = some '\n')

/-- The texts between `previous` and `rest` that consist of trivia alone. -/
inductive Run (rest : List Char) : Option Char → List Char → Prop where
  | empty {previous : Option Char} : Run rest previous []
  | more {previous : Option Char} {element : Element} {later : List Char}
      (fits : element.Fits previous (later ++ rest))
      (more : Run rest (element.source.getLast?.or previous) later) :
      Run rest previous (element.source ++ later)

/-- The text begins with the mark that opens a block comment. -/
def opensBlockComment : List Char → Bool
  | '/' :: '*' :: _ => true
  | _ => false

/-- The parts of a text before and after the mark that closes a block comment, if there is
one. -/
def splitAtClose? : List Char → Option (List Char × List Char)
  | [] => none
  | '*' :: '/' :: text => some ([], text)
  | c :: text => (splitAtClose? text).map fun (body, rest) => (c :: body, rest)

/-- The element of trivia at the front of a text, if there is one, and the text behind
it. -/
def first? (previous : Option Char) : List Char → Option (Element × List Char)
  | '/' :: '*' :: text =>
      (splitAtClose? text).map fun (body, rest) => (.blockComment body, rest)
  | '/' :: '/' :: text =>
      if opensLineComment previous then
        some (.lineComment (text.takeWhile (· != '\n')), text.dropWhile (· != '\n'))
      else none
  | c :: text => if Unicode.isWhitespace c then some (.blank c, text) else none
  | [] => none

/-- The body, the closing mark and the rest make up the text. -/
theorem append_of_splitAtClose? {text body rest : List Char}
    (split : splitAtClose? text = some (body, rest)) : body ++ '*' :: '/' :: rest = text := by
  fun_induction splitAtClose? text generalizing body with
  | case1 => cases split
  | case2 text =>
      simp only [Option.some.injEq, Prod.mk.injEq] at split
      obtain ⟨rfl, rfl⟩ := split
      rfl
  | case3 c text _ inductionHypothesis =>
      simp only [Option.map_eq_some_iff, Prod.exists, Prod.mk.injEq] at split
      obtain ⟨inner, after, found, rfl, rfl⟩ := split
      simp [inductionHypothesis found]

/-- The first element and the rest make up the text. -/
theorem append_of_first? {previous : Option Char} {text rest : List Char} {element : Element}
    (found : first? previous text = some (element, rest)) :
    element.source ++ rest = text := by
  unfold first? at found
  split at found
  · simp only [Option.map_eq_some_iff, Prod.exists, Prod.mk.injEq] at found
    obtain ⟨body, after, split, rfl, rfl⟩ := found
    simp [Element.source, append_of_splitAtClose? split]
  · split at found
    · simp only [Option.some.injEq, Prod.mk.injEq] at found
      obtain ⟨rfl, rfl⟩ := found
      simp [Element.source, List.takeWhile_append_dropWhile]
    · cases found
  · split at found
    · simp only [Option.some.injEq, Prod.mk.injEq] at found
      obtain ⟨rfl, rfl⟩ := found
      rfl
    · cases found
  · cases found

/-- No element of trivia is empty. -/
theorem Element.source_ne_nil (element : Element) : element.source ≠ [] := by
  cases element <;> simp [Element.source]

/-- An element leaves less text than there was. -/
theorem length_of_first? {previous : Option Char} {text rest : List Char} {element : Element}
    (found : first? previous text = some (element, rest)) : rest.length < text.length := by
  have positive := List.length_pos_iff.mpr element.source_ne_nil
  rw [← append_of_first? found, List.length_append]
  omega

/-- The cursor behind all trivia at this one. It stops at an item, at the end of the text,
or at a block comment that nothing closes. -/
def skip (cursor : Cursor) : Cursor :=
  match _found : first? cursor.previous cursor.rest with
  | none => cursor
  | some (element, rest) => skip (cursor.move element.source rest)
termination_by cursor.rest.length
decreasing_by exact length_of_first? _found

/-- Skipping moves over some text, possibly none. -/
theorem skip_eq_move (cursor : Cursor) :
    ∃ trivia, trivia ++ (skip cursor).rest = cursor.rest ∧
      skip cursor = cursor.move trivia (skip cursor).rest := by
  fun_induction skip cursor with
  | case1 cursor _ => exact ⟨[], rfl, rfl⟩
  | case2 cursor element rest found inductionHypothesis =>
      obtain ⟨trivia, whole, moved⟩ := inductionHypothesis
      refine ⟨element.source ++ trivia, ?_, ?_⟩
      · rw [List.append_assoc, whole]
        exact append_of_first? found
      · rw [moved, Cursor.move_move]
        rfl

/-- Skipping never lengthens the text that is left. -/
theorem length_skip_le (cursor : Cursor) :
    (skip cursor).rest.length ≤ cursor.rest.length := by
  obtain ⟨trivia, whole, _⟩ := skip_eq_move cursor
  rw [← whole, List.length_append]
  omega

end StyleLexer.Trivia
