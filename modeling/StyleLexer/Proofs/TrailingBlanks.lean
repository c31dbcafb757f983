import StyleLexer.Proofs.FaultCauses
import StyleLexer.Proofs.Exchanges

/-!
# Blanks at the end of a text

Blanks behind a text make no difference to its tokens, to the cause why reading stops, or to
the place of a fault. `Cause.Explains.append` says that blanks close nothing that was open,
and `Reading.append_of_end` and `Reading.append_of_fault` that the text is read as before. So
the items stay as they are, and only the end of the text moves: `items_append_blanks`.
-/

namespace StyleLexer

section Blanks

variable {blanks : List Char} (blank : ∀ c ∈ blanks, Unicode.isWhitespace c = true)
include blank

/-- Blanks begin with a blank, if there are any. -/
theorem BlankFirst.of_forall : BlankFirst blanks :=
  fun c head => blank c (List.mem_of_head? head)

namespace Trivia

/-- Blanks are trivia wherever they stand. -/
theorem Run.of_blank (rest : List Char) (front : Option Char) : Run rest front blanks := by
  induction blanks generalizing front with
  | nil => exact .empty
  | cons c blanks inductionHypothesis =>
      obtain ⟨first, later⟩ := List.forall_mem_cons.mp blank
      have fits : (Element.blank c).Fits front (blanks ++ rest) := first
      exact .more fits (inductionHypothesis later _)

/-- Blanks behind the last element of a text are trivia as well. A line comment takes those
of its own line. -/
theorem Element.Fits.run_append {front : Option Char} {element : Element}
    (fits : element.Fits front []) : Run [] front (element.source ++ blanks) := by
  cases element with
  | blank c =>
      have here : (Element.blank c).Fits front (blanks ++ []) := fits
      exact .more here (.of_blank blank _ _)
  | blockComment body =>
      have here : (Element.blockComment body).Fits front (blanks ++ []) := fits
      exact .more here (.of_blank blank _ _)
  | lineComment body =>
      obtain ⟨opens, oneLine, _⟩ := fits
      -- The comment takes the blanks up to the next line feed.
      let taken := blanks.takeWhile (· != '\n')
      let left := blanks.dropWhile (· != '\n')
      have whole : (Element.lineComment body).source ++ blanks =
          (Element.lineComment (body ++ taken)).source ++ left := by
        simp [Element.source, taken, left]
      have here : (Element.lineComment (body ++ taken)).Fits front (left ++ []) := by
        refine ⟨opens, ?_, ?_⟩
        · intro feed
          rcases List.mem_append.mp feed with inside | inside
          · exact oneLine inside
          · have other := List.all_eq_true.mp List.all_takeWhile _ inside
            simp at other
        · rw [List.append_nil]
          cases stop : left.head? with
          | none => exact .inl (List.head?_eq_none_iff.mp stop)
          | some c =>
              have feed := stop_of_dropWhile stop
              exact .inr (by simpa using feed)
      rw [whole]
      refine .more here (.of_blank ?_ _ _)
      intro c member
      exact blank c (List.dropWhile_sublist _ |>.subset member)

/-- Blanks behind the trivia at the end of a text are trivia as well. -/
theorem Run.append {front : Option Char} {trivia : List Char} (run : Run [] front trivia) :
    Run [] front (trivia ++ blanks) := by
  induction run with
  | empty => exact .of_blank blank _ _
  | @more front element later fits _ inductionHypothesis =>
      cases later with
      | nil =>
          rw [List.append_nil]
          exact Element.Fits.run_append blank fits
      | cons c later =>
          rw [List.append_assoc]
          exact .more (fits.congr rfl rfl) inductionHypothesis

end Trivia

/-- What ends with another character than a blank ends in front of the blanks. -/
theorem prefix_of_prefix_append {part text : List Char} {c : Char}
    (dark : Unicode.isWhitespace c = false) (begins : part ++ [c] <+: text ++ blanks) :
    part ++ [c] <+: text := by
  rcases List.prefix_or_prefix_of_prefix begins (List.prefix_append text blanks) with
    inside | beyond
  · exact inside
  · rcases List.prefix_concat_iff.mp beyond with whole | shorter
    · exact whole ▸ List.prefix_refl _
    · obtain ⟨more, rfl⟩ := shorter
      rw [List.append_assoc, List.prefix_append_right_inj] at begins
      have inside : c ∈ blanks := begins.subset (by simp)
      exact absurd rfl (ne_of_isWhitespace (blank c inside) dark)

/-- No name goes on with the blanks behind it. -/
theorem Identifier.StopsName.append {text : List Char} (stops : StopsName text) :
    StopsName (text ++ blanks) := by
  cases text with
  | nil => exact fun c head => isPart_of_isWhitespace (BlankFirst.of_forall blank c head)
  | cons d text => exact stops

/-- Blanks close no comment. -/
theorem Trivia.not_close_append {text : List Char} (unclosed : ¬ ['*', '/'] <:+: text) :
    ¬ ['*', '/'] <:+: text ++ blanks := by
  rintro ⟨body, rest, whole⟩
  have begins : (body ++ ['*']) ++ ['/'] <+: text ++ blanks := ⟨rest, by simpa using whole⟩
  obtain ⟨rest', whole'⟩ := prefix_of_prefix_append blank rfl begins
  exact unclosed ⟨body, rest', by simpa using whole'⟩

/-- A cause that holds for a text holds with blanks behind the text. -/
theorem Cause.Explains.append {cause : Cause} {text : List Char}
    (explains : cause.Explains text) : cause.Explains (text ++ blanks) := by
  cases cause with
  | unclosedQuote =>
      obtain ⟨quote, later, rfl, opens, unclosed⟩ := explains
      refine ⟨quote, later ++ blanks, rfl, opens, ?_⟩
      intro body inside closes
      exact unclosed body inside
        (prefix_of_prefix_append blank (Quoted.isWhitespace_of_isQuote opens) closes)
  | unclosedInterpolation =>
      obtain ⟨later, rfl, unclosed⟩ := explains
      refine ⟨later ++ blanks, by simp, ?_⟩
      intro body inside closes
      exact unclosed body inside (prefix_of_prefix_append blank rfl closes)
  | unclosedComment =>
      obtain ⟨later, rfl, unclosed⟩ := explains
      exact ⟨later ++ blanks, by simp, Trivia.not_close_append blank unclosed⟩
  | strayCharacter c =>
      obtain ⟨later, rfl, ⟨sign, stops⟩ | stray⟩ := explains
      · exact ⟨later ++ blanks, rfl, .inl ⟨sign, stops.append blank⟩⟩
      · exact ⟨later ++ blanks, rfl, .inr stray⟩

/-- Where reading stops with a cause, blanks behind the text bring up no trivia. -/
theorem Cause.Explains.first?_append {front : Option Char} {cause : Cause} {text : List Char}
    (explains : cause.Explains text) (ends : Trivia.first? front text = none) :
    Trivia.first? front (text ++ blanks) = none := by
  by_cases comment : Trivia.opensBlockComment text = true
  · unfold Trivia.opensBlockComment at comment
    split at comment
    · rename_i later
      have unclosed := Trivia.first?_comment_eq_none_iff.mp ends
      exact Trivia.first?_comment_eq_none_iff.mpr (Trivia.not_close_append blank unclosed)
    · cases comment
  · have clear : Trivia.opens front (text ++ []) = false := by
      rw [List.append_nil, Trivia.opens_eq_false_iff]
      exact ⟨ends, by simpa using comment⟩
    have clear' : Trivia.opens front (text ++ blanks) = false :=
      Trivia.opens_append_eq_false explains.ne_nil
        (fun _ => (BlankFirst.of_forall blank).noMark) clear
    exact (Trivia.opens_eq_false_iff.mp clear').1

/-- Blanks behind a text leave its byte order mark as it was. -/
theorem leadingMark_append_blanks (text : List Char) :
    leadingMark (text ++ blanks) = leadingMark text := by
  have unmarked : blanks.head? ≠ some '\ufeff' := (BlankFirst.of_forall blank).head?_ne rfl
  obtain ⟨unread, whole, _⟩ := Cursor.exists_ofText text
  have opening : text = leadingMark text ++ unread ++ [] := by rwa [List.append_nil]
  have same := leadingMark_append opening unmarked
  rwa [← whole] at same

namespace Reading

variable {text passed trivia rest : List Char} {tokens : List Token}

/-- Blanks behind a text that is read to its end are trivia at the end. -/
theorem append_of_end (reading : Reading text passed trivia [] tokens none) :
    Reading (text ++ blanks) passed (trivia ++ blanks) [] tokens none := by
  obtain ⟨whole, stretch, run, _, _⟩ := reading
  constructor
  · rw [leadingMark_append_blanks blank]
    simpa using congrArg (· ++ blanks) whole
  · rw [leadingMark_append_blanks blank, List.append_assoc]
    exact stretch.exchange (.behind (by simpa using BlankFirst.of_forall blank) trivia [])
  · rw [leadingMark_append_blanks blank]
    exact run.append blank
  · rfl
  · exact Cursor.finding_eq_stop_none_iff.mpr rfl

/-- Blanks behind a text with a fault leave the fault where it was. -/
theorem append_of_fault {cause : Cause} (reading : Reading text passed trivia rest tokens cause) :
    Reading (text ++ blanks) passed trivia (rest ++ blanks) tokens cause := by
  obtain ⟨whole, stretch, run, ends, stops⟩ := reading
  have explains := (Cursor.finding_eq_stop_some_iff ends).mp stops
  rw [Cursor.between_rest] at explains
  have same : rest.head? = (rest ++ blanks).head? := by
    simpa using head?_append_congr explains.ne_nil [] blanks
  have ends' := explains.first?_append blank ends
  constructor
  · rw [leadingMark_append_blanks blank]
    simpa using congrArg (· ++ blanks) whole
  · rw [leadingMark_append_blanks blank]
    exact stretch.congr (by rw [List.head?_append, List.head?_append, same])
  · rw [leadingMark_append_blanks blank]
    exact run.congr rfl same
  · rwa [leadingMark_append_blanks blank]
  · rw [leadingMark_append_blanks blank]
    exact (Cursor.finding_eq_stop_some_iff ends').mpr (explains.append blank)

end Reading

end Blanks

/-- The end of a text moves by so many bytes, and every other item stays. -/
def Item.withEndMoved (bytes : Nat) (item : Item) : Item :=
  if item.kind = .endOfText then { item with offset := item.offset + bytes } else item

/-- The items of a text with blanks behind it are those of the text, with another end. -/
theorem items_append_blanks {blanks : String}
    (blank : ∀ c ∈ blanks.toList, Unicode.isWhitespace c = true) (text : String) :
    (ItemStream.ofText (text ++ blanks)).items =
      (ItemStream.ofText text).items.map (Item.withEndMoved blanks.utf8ByteSize) := by
  obtain ⟨passed, trivia, rest, tokens, cause, reading⟩ := exists_reading text.toList
  have stay : (Token.items .initial tokens).map (Item.withEndMoved blanks.utf8ByteSize) =
      Token.items .initial tokens := by
    refine (List.map_congr_left ?_).trans (List.map_id _)
    intro item member
    have notEnd : Kind.endOfText ≠ item.kind :=
      Kind.ne_of_isEnding rfl (Token.isEnding_of_mem_items member)
    exact if_neg notEnd.symm
  have whole : (text ++ blanks).toList = text.toList ++ blanks.toList := String.toList_append
  rw [reading.items_eq, List.map_append, stay, List.map_singleton]
  cases cause with
  | none =>
      obtain rfl := Cursor.finding_eq_stop_none_iff.mp reading.stops
      have reading' := reading.append_of_end blank
      rw [← whole] at reading'
      rw [reading'.items_eq, whole, leadingMark_append_blanks blank]
      simp [Cursor.closing, Item.ofEnd, Item.withEndMoved, byteSize_toList, Nat.add_assoc]
  | some cause =>
      have reading' := reading.append_of_fault blank
      rw [← whole] at reading'
      rw [reading'.items_eq, whole, leadingMark_append_blanks blank]
      rfl

end StyleLexer
