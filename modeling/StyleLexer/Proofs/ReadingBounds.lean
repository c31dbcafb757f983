import StyleLexer.Proofs.ReaderRuns

/-!
# Reading stays inside the text

However a text is read, and however far a reader has come, its two offsets are valid positions of the
text in their order, and whatever it does next succeeds: each slice that it takes exists and no
difference is negative. `Reader.reading_stays_inside` says so of every text, together with what the
reading comes to, which is what the stream of items hands out. The same holds of locating an offset,
of which nothing at all is known.
-/

namespace StyleLexer.Reader

open Offsets

/-- At every stage there is an item to hand out. -/
theorem Stage.exists_next? {text : List Char} {reader : Reader} (stage : reader.Stage text) :
    ∃ item later, next? text reader = some (item, later) := by
  cases terminal : reader.terminal with
  | some item => exact ⟨item, reader, by rw [next?, terminal]⟩
  | none =>
      rw [next?, terminal]
      cases pending : reader.pending with
      | some item => exact ⟨item, _, run?_of_pending pending⟩
      | none =>
          obtain ⟨scanner, tracks⟩ := stage.exists_tracks pending terminal
          obtain ⟨later, ran, _⟩ := run?_handsOut tracks (Prod.eta scanner.next).symm
          exact ⟨_, later, ran⟩

/-- Reading a text, and locating an offset in it, takes no slice of the text that does not exist and
no difference that is negative. -/
structure StaysInside (expected : Option Category) (text : String) : Prop where
  /-- The start and the position of a reader are positions of the text in their order. -/
  positions {reader : Reader} (reached : Reached expected text.toList reader) :
    reader.start ≤ reader.pos ∧ reader.pos ≤ text.utf8ByteSize ∧
      String.Pos.Raw.IsValid text ⟨reader.start⟩ ∧ String.Pos.Raw.IsValid text ⟨reader.pos⟩
  /-- A reader that has nothing to hand out can take a step. -/
  steps {reader : Reader} (reached : Reached expected text.toList reader)
    (idle : reader.pending = none) (goesOn : reader.terminal = none) :
    ∃ later, step? text.toList reader = some later
  /-- A reader can be asked for an item at any time. -/
  answers {reader : Reader} (reached : Reached expected text.toList reader) :
    ∃ item later, next? text.toList reader = some (item, later)
  /-- The text can be opened, and reading it comes to the items of its stream. -/
  collects : items? text.toList expected = some (ItemStream.expecting expected text).items
  /-- From any offset, cut down to the size of the text, a position of the text is reached. -/
  clamps (offset : Nat) : ∃ stop, boundaryBelow? text.toList (min offset text.utf8ByteSize) = some stop ∧
    stop ≤ offset ∧ String.Pos.Raw.IsValid text ⟨stop⟩
  /-- Any offset is located. -/
  locates (offset : Nat) :
    locate? text.toList offset = some (Location.locate text.toList offset)

/-- No text is ever left in reading it, whatever the caller expects it to open with. -/
theorem reading_stays_inside (expected : Option Category) (text : String) :
    StaysInside expected text where
  positions := by
    intro reader reached
    have bounds := reached.stage.inBounds
    refine ⟨bounds.ordered, ?_, isBoundary_iff_isValid.mp bounds.start,
      isBoundary_iff_isValid.mp bounds.pos⟩
    rw [← byteSize_toList]
    exact bounds.pos.le_byteSize
  steps := by
    intro reader reached idle goesOn
    obtain ⟨scanner, tracks⟩ := reached.stage.exists_tracks idle goesOn
    obtain ⟨later, stepped, _⟩ := step?_stepsTo tracks
    exact ⟨later, stepped⟩
  answers := by
    intro reader reached
    exact reached.stage.exists_next?
  collects := items?_eq expected text
  clamps := by
    intro offset
    have found := boundaryBelow?_eq text.toList (min offset text.utf8ByteSize)
    have below := Location.byteSize_within_le (min offset text.utf8ByteSize) text.toList
    refine ⟨_, found, Nat.le_trans below (Nat.min_le_left _ _), isBoundary_iff_isValid.mp ?_⟩
    obtain ⟨rest, whole⟩ := Location.within_isPrefix (min offset text.utf8ByteSize) text.toList
    exact ⟨_, rest, whole.symm, rfl⟩
  locates := locate?_eq text.toList

end StyleLexer.Reader
