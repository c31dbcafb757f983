import StyleLexer.Proofs.ReaderRuns

/-!
# Reading ends

However a text is read, each item is found in at most two steps and takes some text, so a reader
comes to its last item, and no loop in between goes on for ever. `Reader.reading_ends` says so of
every text. The loops of a reader have no bound of their own, so that each answer they give is one
they come to by themselves.
-/

namespace StyleLexer.Reader

open Offsets

variable {text : List Char} {reader : Reader} {scanner : Scanner}

/-- A scanner that is tracked has not finished, and is at most two silent steps away from it. -/
theorem Tracks.rank (tracks : reader.Tracks text scanner) :
    0 < scanner.phase.rank ∧ scanner.phase.rank ≤ 2 := by
  obtain ⟨seeking, _⟩ | ⟨reading, _⟩ := tracks.task
  · rw [seeking]
    decide
  · rw [reading]
    decide

/-- A reader with nothing to hand out has not halted. -/
theorem Tracks.state_ne_halted (tracks : reader.Tracks text scanner) : reader.state ≠ .halted := by
  obtain ⟨_, state⟩ | ⟨_, _, category, state, _⟩ := tracks.task
  · rw [state]
    exact State.noConfusion
  · rw [state]
    exact State.noConfusion

/-- A step that hands out an item leaves it pending. -/
theorem StepsTo.pending_ne_none {item : Item} {after : Scanner} {next : Reader}
    (comes : StepsTo text reader (.yield item after) next) : next.pending ≠ none := by
  cases comes with
  | lexeme goesOn pending tracks further => simp [pending]
  | last ending pending bounds unhanded => simp [pending]

/-- An item is pending after one step or after two. -/
theorem Tracks.exists_pending (tracks : reader.Tracks text scanner) :
    ∃ next, step? text reader = some next ∧
      (next.pending ≠ none ∨
        ∃ later, step? text next = some later ∧ later.pending ≠ none) := by
  obtain ⟨next, stepped, comes⟩ := step?_stepsTo tracks
  refine ⟨next, stepped, ?_⟩
  cases first : scanner.step with
  | yield item after =>
      rw [first] at comes
      exact .inl comes.pending_ne_none
  | silent after =>
      rw [first] at comes
      cases comes with
      | silent tracksNext ordered =>
          obtain ⟨later, stepped', comes'⟩ := step?_stepsTo tracksNext
          refine .inr ⟨later, stepped', ?_⟩
          cases second : after.step with
          | yield item last =>
              rw [second] at comes'
              exact comes'.pending_ne_none
          | silent last =>
              -- Three phases would be needed for two silent steps in front of a third one.
              rw [second] at comes'
              cases comes' with
              | silent tracksLast ordered' =>
                  have lower := Scanner.rank_of_silent first
                  have lower' := Scanner.rank_of_silent second
                  have bound := tracks.rank
                  have bound' := tracksLast.rank
                  omega

/-- Each loop of a reader comes to an answer, from any position of the text. -/
structure LoopsEnd (text : List Char) (pos : Nat) : Prop where
  passWhile (p : Char → Bool) : ∃ stop, passWhile? text p pos = some stop
  passQuoted : ∃ answer, passQuoted? text pos = some answer
  passBody (depth : Nat) : ∃ answer, passBody? text depth pos = some answer
  triviaEnd : ∃ answer, triviaEnd? text pos = some answer

/-- From a boundary every loop comes to an answer. -/
theorem loopsEnd_of_isBoundary {pos : Nat} (boundary : IsBoundary text pos) : LoopsEnd text pos := by
  obtain ⟨before, rest, rfl, rfl⟩ := boundary
  have ahead : Ahead (before ++ rest) (byteSize before) rest := ⟨before, rfl, rfl⟩
  have stands : (Cursor.between before rest).StandsIn (before ++ rest) := ⟨before, rest, rfl, rfl⟩
  refine ⟨fun p => ⟨_, ahead.passWhile?_eq p⟩, ?_, fun depth => ⟨_, ahead.passBody?_eq depth⟩, ?_⟩
  · cases rest with
    | nil => exact ⟨_, by rw [passQuoted?, ahead.bump?_nil]; rfl⟩
    | cons quote rest => exact ⟨_, ahead.passQuoted?_eq⟩
  · have ended := stands.triviaEnd?_eq
    rw [Cursor.between_offset] at ended
    exact ⟨_, ended⟩

/-- The stream of a text has one item that ends it, the last one, and in front of it no more items than
characters behind a byte order mark. -/
theorem items_eq_front_concat (expected : Option Category) (text : String) :
    ∃ front last, (ItemStream.expecting expected text).items = front ++ [last] ∧
      (∀ item ∈ front, item.kind.isEnding = false) ∧ last.kind.isEnding = true ∧
      (leadingMark text.toList).length + front.length ≤ text.toList.length := by
  obtain ⟨scanner, started, atStart, _⟩ := ItemStream.exists_scanner_of_expecting expected text
  obtain ⟨front, last, whole, goesOn, ends⟩ := ItemStream.items_eq_concat scanner
  refine ⟨front, last, started ▸ whole, goesOn, ends, ?_⟩
  obtain ⟨rest, parts, opened⟩ := Cursor.exists_ofText text.toList
  have count := ItemStream.length_items_le scanner
  rw [whole, atStart, opened, Cursor.between_rest, List.length_append, List.length_singleton] at count
  have size := congrArg List.length parts
  rw [List.length_append] at size
  omega

/-- A reader that hands out an item and goes on has passed some text. -/
theorem Stage.pos_lt_of_next? {later : Reader} {item : Item} (stage : reader.Stage text)
    (idle : reader.pending = none) (handed : next? text reader = some (item, later))
    (goesOn : item.kind.isEnding = false) : reader.pos < later.pos := by
  cases terminal : reader.terminal with
  | some last =>
      have ending := stage.isEnding_of_terminal terminal
      rw [next?, terminal] at handed
      obtain ⟨rfl, _⟩ := Prod.mk.inj (Option.some.inj handed)
      cases goesOn.symm.trans ending
  | none =>
      obtain ⟨scanner, tracks⟩ := stage.exists_tracks idle terminal
      obtain ⟨behind, found, handsOut⟩ := next?_handsOut tracks (Prod.eta scanner.next).symm
      obtain ⟨rfl, rfl⟩ := Prod.mk.inj (Option.some.inj (found.symm.trans handed))
      cases handsOut with
      | goesOn _ _ further => exact further
      | ends ending _ => cases goesOn.symm.trans ending

/-- Reading a text comes to its end, and makes progress until then. -/
structure Ends (expected : Option Category) (text : String) : Prop where
  /-- There is one item that ends the stream, the last one, and in front of it there are no more items
  than characters behind a byte order mark. -/
  items : ∃ front last, (ItemStream.expecting expected text).items = front ++ [last] ∧
    (∀ item ∈ front, item.kind.isEnding = false) ∧ last.kind.isEnding = true ∧
    (leadingMark text.toList).length + front.length ≤ text.toList.length
  /-- An item that does not end the stream takes some text. -/
  advances {reader later : Reader} {item : Item} (reached : Reached expected text.toList reader)
    (idle : reader.pending = none) (handed : next? text.toList reader = some (item, later))
    (goesOn : item.kind.isEnding = false) : reader.pos < later.pos
  /-- A reader with nothing to hand out has an item pending after one step or after two. -/
  steps {reader : Reader} (reached : Reached expected text.toList reader)
    (idle : reader.pending = none) (goesOn : reader.terminal = none) :
    ∃ next, step? text.toList reader = some next ∧
      (next.pending ≠ none ∨
        ∃ later, step? text.toList next = some later ∧ later.pending ≠ none)
  /-- It has not halted. -/
  running {reader : Reader} (reached : Reached expected text.toList reader)
    (idle : reader.pending = none) (goesOn : reader.terminal = none) : reader.state ≠ .halted
  /-- Each loop comes to an answer. -/
  loops {pos : Nat} (position : String.Pos.Raw.IsValid text ⟨pos⟩) : LoopsEnd text.toList pos
  /-- Asking for one item after the other comes to an end, with the items of the stream. -/
  collects : items? text.toList expected = some (ItemStream.expecting expected text).items
  /-- Asking for all items at once comes to an end, with the items of the text or its fault. -/
  tokenizes : tokenize? text.toList = some (StyleLexer.items text)

/-- Reading ends for every text, whatever the caller expects it to open with. -/
theorem reading_ends (expected : Option Category) (text : String) : Ends expected text where
  items := items_eq_front_concat expected text
  advances := fun reached => reached.stage.pos_lt_of_next?
  steps := by
    intro reader reached idle goesOn
    obtain ⟨scanner, tracks⟩ := reached.stage.exists_tracks idle goesOn
    exact tracks.exists_pending
  running := by
    intro reader reached idle goesOn
    obtain ⟨scanner, tracks⟩ := reached.stage.exists_tracks idle goesOn
    exact tracks.state_ne_halted
  loops := fun position => loopsEnd_of_isBoundary (isBoundary_iff_isValid.mpr position)
  collects := items?_eq expected text
  tokenizes := tokenize?_eq text

end StyleLexer.Reader
