import Mathlib.Control.Monad.Basic
import StyleLexer.Proofs.Exchanges
import StyleLexer.Proofs.Readings
import StyleLexer.Proofs.Slices

/-!
# Cutting a text at its fault

What stands in front of a fault is a text without one. `Reading.cut` reads it: the tokens and
the trivia in front of the place where reading stops are the same when nothing follows there.
`items_before_fault` is what this means for the items.
-/

namespace StyleLexer

namespace Trivia

/-- A run of trivia in front of some text is one at the end of a text. -/
theorem Run.cut {rest trivia : List Char} {front : Option Char} (run : Run rest front trivia) :
    Run [] front trivia := by
  induction run with
  | empty => exact .empty
  | @more front element later fits _ inductionHypothesis =>
      refine .more ?_ inductionHypothesis
      cases later with
      | nil =>
          cases element with
          | blank c => exact fits
          | blockComment body => exact fits
          | lineComment body =>
              obtain ⟨opens, oneLine, _⟩ := fits
              exact ⟨opens, oneLine, .inl rfl⟩
      | cons c later => exact fits.congr rfl rfl

end Trivia

/-- A text that is cut where reading stops is read in the same way, and to its end. -/
theorem Reading.cut {text passed trivia rest : List Char} {tokens : List Token}
    {cause : Option Cause} (reading : Reading text passed trivia rest tokens cause) :
    Reading (leadingMark text ++ passed ++ trivia) passed trivia [] tokens none := by
  obtain ⟨whole, stretch, run, _, _⟩ := reading
  have mark : leadingMark (leadingMark text ++ passed ++ trivia) = leadingMark text := by
    have opening : text = leadingMark text ++ (passed ++ trivia) ++ rest := by
      rwa [← List.append_assoc, List.append_assoc _ trivia]
    have unmarked : ([] : List Char).head? ≠ some '\ufeff' := nofun
    have same := leadingMark_append opening unmarked
    rwa [List.append_nil, ← List.append_assoc] at same
  constructor
  · rw [mark, List.append_nil]
  · rw [mark]
    exact stretch.exchange (.behind .nil trivia rest)
  · rw [mark]
    exact run.cut
  · rfl
  · exact Cursor.finding_eq_stop_none_iff.mpr rfl

/-- The text up to the offset of a fault has exactly the items that were found before the
fault, and none of its own. -/
theorem items_before_fault {text : String} {fault : Fault} (faulty : items text = .error fault) :
    ∃ before after found, text = before ++ after ∧
      before.utf8ByteSize = fault.location.offset ∧ fault.location.offset < text.utf8ByteSize ∧
        items before = .ok found ∧ (ItemStream.ofText text).items = found ++ [.ofFault fault] := by
  obtain ⟨passed, trivia, rest, tokens, cause, reading⟩ := exists_reading text.toList
  rw [reading.outcome_eq] at faulty
  cases cause with
  | none => cases faulty
  | some cause =>
      cases faulty
      have whole := reading.whole
      rw [← List.append_assoc] at whole
      have nonempty : rest ≠ [] := by
        intro empty
        cases reading.stops.symm.trans (Cursor.finding_eq_stop_none_iff.mpr empty)
      have positive := Nat.pos_of_ne_zero (mt byteSize_eq_zero_iff.mp nonempty)
      let front := leadingMark text.toList ++ passed ++ trivia
      refine ⟨.ofList front, .ofList rest, Token.items .initial tokens, ?_, ?_, ?_, ?_, ?_⟩
      · rw [← String.ofList_append, ← whole, String.ofList_toList]
      · rw [utf8ByteSize_ofList, Cursor.between_offset]
      · have size := congrArg byteSize whole
        rw [byteSize_toList, byteSize_append] at size
        rw [Cursor.between_offset, size]
        omega
      · have cut : Reading (String.ofList front).toList passed trivia [] tokens none := by
          rw [String.toList_ofList]
          exact reading.cut
        exact cut.outcome_eq
      · exact reading.items_eq

/-- A text whose second word is never closed is cut behind the first. -/
theorem items_before_open_quote :
    items "a 'b" = .error ⟨.unclosedQuote, ⟨2, 1, 3⟩⟩ ∧
      ∃ before after found, "a 'b" = before ++ after ∧ before.utf8ByteSize = 2 ∧
        2 < "a 'b".utf8ByteSize ∧ items before = .ok found ∧
          (ItemStream.ofText "a 'b").items =
            found ++ [.ofFault ⟨.unclosedQuote, ⟨2, 1, 3⟩⟩] := by
  have faulty : items "a 'b" = .error ⟨.unclosedQuote, ⟨2, 1, 3⟩⟩ := by decide +kernel
  exact ⟨faulty, items_before_fault faulty⟩

end StyleLexer
