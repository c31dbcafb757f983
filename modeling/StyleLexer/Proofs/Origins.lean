import StyleLexer.Proofs.Readings
import StyleLexer.Proofs.Sessions

/-!
# Where items come from

The cursor of a scanner stands between two characters of the text, wherever the scanner was started
and however far it has come. `Scanner.exists_lexeme` says that every item it hands out, the last one
apart, is that of a lexeme which fits there, and `ItemStream.exists_lexeme_of_mem_items` says it of
all the items of a stream. Unlike a `Reading` this holds of scanners that begin to read where trivia
opens as well.
-/

namespace StyleLexer

/-- The cursor stands between two characters of the text, or at one of its ends. -/
def Cursor.StandsIn (text : List Char) (cursor : Cursor) : Prop :=
  ∃ before after, text = before ++ after ∧ cursor = .between before after

namespace Cursor.StandsIn

variable {text : List Char} {cursor : Cursor}

/-- Moving over the beginning of the rest leads to another boundary. -/
theorem move {passed rest : List Char} (stands : cursor.StandsIn text)
    (whole : cursor.rest = passed ++ rest) : (cursor.move passed rest).StandsIn text := by
  obtain ⟨before, after, rfl, rfl⟩ := stands
  rw [between_rest] at whole
  subst whole
  exact ⟨before ++ passed, rest, (List.append_assoc _ _ _).symm, between_move _ _ _⟩

/-- Skipping trivia leads to another boundary. -/
theorem skip (stands : cursor.StandsIn text) : (Trivia.skip cursor).StandsIn text := by
  obtain ⟨trivia, whole, moved⟩ := Trivia.skip_eq_move cursor
  rw [moved]
  exact stands.move whole.symm

end Cursor.StandsIn

/-- Moving adds the size of what is passed to the offset. -/
theorem Cursor.offset_move (cursor : Cursor) (passed rest : List Char) :
    (cursor.move passed rest).location.offset = cursor.location.offset + byteSize passed :=
  Location.past_offset _ _

/-- The start of a text, behind a byte order mark, is a boundary of it. -/
theorem Cursor.standsIn_ofText (text : List Char) : (ofText text).StandsIn text := by
  obtain ⟨rest, whole, opened⟩ := exists_ofText text
  exact ⟨_, rest, whole, opened⟩

namespace Scanner

variable {text : List Char} {scanner after : Scanner} {item : Item}

/-- A silent step leads from one boundary to another. -/
theorem standsIn_of_silent (stands : scanner.cursor.StandsIn text)
    (silent : scanner.step = .silent after) : after.cursor.StandsIn text := by
  have moves := scanner.moves_step
  rw [silent] at moves
  cases moves with
  | seeks seeking noComment => exact stands.skip
  | rests => exact stands

/-- An item that does not end the stream is that of a lexeme which fits where the scanner has
found it, and the scanner goes on right behind it. -/
theorem exists_lexeme (stands : scanner.cursor.StandsIn text)
    (found : scanner.next = (item, after)) (goesOn : item.kind.isEnding = false) :
    ∃ (before : List Char) (lexeme : Lexeme) (rest : List Char),
      text = before ++ lexeme.source ++ rest ∧ lexeme.Fits rest ∧
      item = lexeme.item scanner.place (.past .origin before)
        (.between (before ++ lexeme.source) rest) ∧
      after = { cursor := .between (before ++ lexeme.source) rest,
                place := .following item.kind item.value } := by
  fun_induction next scanner with
  | case1 scanner item' after' yields =>
      cases found
      have moves := scanner.moves_step
      rw [yields] at moves
      cases moves with
      | ends cursor => cases goesOn
      | fails cause cursor => cases goesOn
      | @reads first behind rest lexeme _ _ _ whole read moved isItem =>
          obtain ⟨before, unread, rfl, cursor⟩ := stands
          obtain ⟨source, fits⟩ := Lexeme.read_eq_ok_iff.mp read
          rw [cursor, Cursor.between_rest, source] at whole
          subst whole
          rw [cursor, Cursor.between_move] at moved
          subst moved
          rw [cursor] at isItem
          exact ⟨before, lexeme, rest, (List.append_assoc _ _ _).symm, fits, isItem, rfl⟩
  | case2 scanner later silent inductionHypothesis =>
      rw [← place_of_silent silent]
      exact inductionHypothesis (standsIn_of_silent stands silent) found

end Scanner

namespace ItemStream

/-- The items of a scanner are the next one and, unless that one ends the stream, those behind it. -/
theorem items_of_next {scanner after : Scanner} {item : Item} (found : scanner.next = (item, after)) :
    items { scanner } = item :: if item.kind.isEnding then [] else items { scanner := after } := by
  rw [items_of_next?_eq_some (next?_of_running scanner), found]
  cases ending : item.kind.isEnding with
  | true => rw [items_of_next?_eq_none] <;> simp [next?, Progress.ofItem, ending, Progress.exhaust]
  | false => simp [Progress.ofItem, ending, Progress.exhaust]

/-- The items of a stream that do not end it are those of lexemes which fit where they stand. -/
theorem exists_lexeme_of_mem_items {text : List Char} {scanner : Scanner} {item : Item}
    (stands : scanner.cursor.StandsIn text) (member : item ∈ items { scanner })
    (goesOn : item.kind.isEnding = false) :
    ∃ (before : List Char) (lexeme : Lexeme) (rest : List Char) (place : Place),
      text = before ++ lexeme.source ++ rest ∧ lexeme.Fits rest ∧
      item = lexeme.item place (.past .origin before)
        (.between (before ++ lexeme.source) rest) := by
  cases found : scanner.next with
  | mk first after =>
      rw [items_of_next found] at member
      cases ending : first.kind.isEnding with
      | true =>
          rw [ending] at member
          obtain rfl := List.mem_singleton.mp member
          cases ending.symm.trans goesOn
      | false =>
          obtain ⟨before, lexeme, rest, whole, fits, isItem, isAfter⟩ :=
            Scanner.exists_lexeme stands found ending
          have shorter := Scanner.length_of_next found ending
          rw [ending] at member
          rcases List.mem_cons.mp member with rfl | later
          · exact ⟨before, lexeme, rest, scanner.place, whole, fits, isItem⟩
          · have standsLater : after.cursor.StandsIn text :=
              ⟨before ++ lexeme.source, rest, whole, by rw [isAfter]⟩
            exact exists_lexeme_of_mem_items standsLater later goesOn
termination_by scanner.cursor.rest.length

/-- Every stream begins at the start of its text. -/
theorem exists_scanner_of_expecting (expected : Option Category) (text : String) :
    ∃ scanner, expecting expected text = { scanner } ∧
      scanner.cursor = .ofText text.toList ∧ scanner.place = .initial := by
  cases expected with
  | none => exact ⟨.ofText text.toList, rfl, rfl, rfl⟩
  | some category => exact ⟨.startingAt category text.toList, rfl, rfl, rfl⟩

/-- There are no more items than characters ahead, the last one apart. -/
theorem length_items_le (scanner : Scanner) :
    (items { scanner }).length ≤ scanner.cursor.rest.length + 1 := by
  cases found : scanner.next with
  | mk item after =>
      rw [items_of_next found]
      cases ending : item.kind.isEnding with
      | true => simp
      | false =>
          have shorter := Scanner.length_of_next found ending
          have later := length_items_le after
          simp only [Bool.false_eq_true, if_false, List.length_cons]
          omega
termination_by scanner.cursor.rest.length

end ItemStream

end StyleLexer
