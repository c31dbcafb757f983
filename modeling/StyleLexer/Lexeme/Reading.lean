import StyleLexer.Fault
import StyleLexer.Interpolation
import StyleLexer.Lexeme.Basic
import StyleLexer.Lexeme.Category

/-!
# Reading a lexeme

`Lexeme.read` takes the lexeme at the front of a text, or says why there is none. The
category alone decides how it is read. `Lexeme.source_of_read` says that reading loses
nothing.
-/

namespace StyleLexer.Lexeme

open Identifier

/-- The marks that may stand alone: the printable characters of ASCII other than letters,
digits and the space. -/
def isPunctuation (c : Char) : Bool :=
  let point := c.toNat
  (0x21 ≤ point && point ≤ 0x2F) || (0x3A ≤ point && point ≤ 0x40) ||
    (0x5B ≤ point && point ≤ 0x60) || (0x7B ≤ point && point ≤ 0x7E)

/-- The lexeme that opens with `first` in front of `text`, and the text behind it. -/
def read (first : Char) (text : List Char) : Except Cause (Lexeme × List Char) :=
  match Category.opening first text with
  | .variableName =>
      if (name text).isEmpty then .error (.strayCharacter '$')
      else .ok (variableName (name text), behindName text)
  | .interpolation =>
      match Interpolation.split? 0 (text.drop 1) with
      | some (body, rest) => .ok (interpolation body, rest)
      | none => .error .unclosedInterpolation
  | .quoted =>
      match Quoted.split? first text with
      | some (body, rest) => .ok (quoted first body, rest)
      | none => .error .unclosedQuote
  | .number =>
      .ok (number (first :: text.takeWhile Char.isDigit), text.dropWhile Char.isDigit)
  | .directive =>
      if (name text).isEmpty then .error (.strayCharacter '@')
      else .ok (directive (name text), behindName text)
  | .word => .ok (word (first :: name text), behindName text)
  | .symbol =>
      if first = '#' ∧ (name text).isEmpty = false then
        .ok (hashName (name text), behindName text)
      else if isPunctuation first then .ok (symbol first, text)
      else .error (.strayCharacter first)

/-- The lexeme and the rest make up the text, and the lexeme has the first character. -/
theorem source_of_read {first : Char} {text rest : List Char} {lexeme : Lexeme}
    (reading : read first text = .ok (lexeme, rest)) :
    ∃ later, lexeme.source = first :: later ∧ later ++ rest = text := by
  unfold read at reading
  split at reading
  · rename_i opens
    split at reading
    · cases reading
    · cases reading
      rw [Category.eq_of_opening_variableName opens]
      exact ⟨name text, rfl, name_append_behindName text⟩
  · rename_i opens
    obtain ⟨rfl, brace⟩ := Category.eq_of_opening_interpolation opens
    obtain ⟨behind, rfl⟩ := List.head?_eq_some_iff.mp brace
    split at reading
    · rename_i body rest split
      cases reading
      have whole := Interpolation.append_of_split? split
      refine ⟨'\x7b' :: (body ++ ['\x7d']), rfl, ?_⟩
      simpa using whole
    · cases reading
  · split at reading
    · rename_i body rest split
      cases reading
      have whole := Quoted.append_of_split? split
      exact ⟨body ++ [first], rfl, by simpa using whole⟩
    · cases reading
  · cases reading
    exact ⟨_, rfl, List.takeWhile_append_dropWhile⟩
  · rename_i opens
    split at reading
    · cases reading
    · cases reading
      rw [Category.eq_of_opening_directive opens]
      exact ⟨name text, rfl, name_append_behindName text⟩
  · cases reading
    exact ⟨name text, rfl, name_append_behindName text⟩
  · split at reading
    · rename_i hash
      cases reading
      rw [hash.1]
      exact ⟨name text, rfl, name_append_behindName text⟩
    · split at reading
      · cases reading
        exact ⟨[], rfl, rfl⟩
      · cases reading

/-- A lexeme takes at least the first character. -/
theorem length_of_read {first : Char} {text rest : List Char} {lexeme : Lexeme}
    (reading : read first text = .ok (lexeme, rest)) : rest.length ≤ text.length := by
  obtain ⟨later, _, whole⟩ := source_of_read reading
  rw [← whole, List.length_append]
  omega

end StyleLexer.Lexeme
