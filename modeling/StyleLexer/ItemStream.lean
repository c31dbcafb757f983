import StyleLexer.Scanner

/-!
# Streams of items

A stream hands out items on request. `ItemStream.next` repeats the last item for ever;
`ItemStream.next?` hands it out once and then nothing more. Both draw on the same stream,
and `ItemStream.drain` takes all that `next?` has left.
-/

namespace StyleLexer

/-- How far a stream has come. -/
inductive Progress where
  /-- The last item has not been handed out. -/
  | running
  /-- The last item has been handed out, but not by `next?`. -/
  | ended (last : Item)
  /-- The last item has been handed out by `next?`. -/
  | exhausted (last : Item)
deriving DecidableEq, Repr

namespace Progress

/-- The progress after `next` has handed out an item. -/
def ofItem (item : Item) : Progress :=
  if item.kind.isEnding then .ended item else .running

/-- The progress after `next?` has handed out the item that led here. -/
def exhaust : Progress → Progress
  | .running => .running
  | .ended last => .exhausted last
  | .exhausted last => .exhausted last

end Progress

/-- A stream of the items of one stylesheet. -/
structure ItemStream where
  scanner : Scanner
  progress : Progress := .running

namespace ItemStream

/-- The stream of a text, from its start. -/
def ofText (text : String) : ItemStream where
  scanner := .ofText text.toList

/-- The stream of a text of which the caller expects that it opens with a lexeme of the
category. -/
def startingAt (category : Category) (text : String) : ItemStream where
  scanner := .startingAt category text.toList

/-- The stream of a text whose caller expects a category, or nothing. -/
def expecting (expected : Option Category) (text : String) : ItemStream :=
  match expected with
  | none => ofText text
  | some category => startingAt category text

/-- The place behind the items handed out so far. -/
def place (stream : ItemStream) : Place :=
  stream.scanner.place

/-- The next item; the last one is repeated for ever. -/
def next (stream : ItemStream) : Item × ItemStream :=
  match stream.progress with
  | .running =>
      let (item, scanner) := stream.scanner.next
      (item, { scanner, progress := .ofItem item })
  | .ended last => (last, stream)
  | .exhausted last => (last, stream)

/-- The next item, or nothing once the last one has been handed out here. -/
def next? (stream : ItemStream) : Option (Item × ItemStream) :=
  match stream.progress with
  | .exhausted _ => none
  | _ =>
      let (item, after) := stream.next
      some (item, { after with progress := after.progress.exhaust })

/-- A bound on the number of items that `next?` has left. -/
def remaining (stream : ItemStream) : Nat :=
  match stream.progress with
  | .exhausted _ => 0
  | _ => stream.scanner.cursor.rest.length + 1

/-- Each item that `next?` hands out lowers the bound. -/
theorem remaining_of_next? {stream after : ItemStream} {item : Item}
    (handed : stream.next? = some (item, after)) : after.remaining < stream.remaining := by
  obtain ⟨scanner, progress⟩ := stream
  cases progress with
  | exhausted last => cases handed
  | ended last =>
      cases handed
      exact Nat.succ_pos _
  | running =>
      cases scanned : scanner.next with
      | mk found behind =>
          simp only [next?, next, scanned, Option.some.injEq, Prod.mk.injEq] at handed
          obtain ⟨rfl, rfl⟩ := handed
          cases ending : found.kind.isEnding with
          | true => simp [remaining, Progress.ofItem, ending, Progress.exhaust]
          | false =>
              have shorter := Scanner.length_of_next scanned ending
              simpa [remaining, Progress.ofItem, ending, Progress.exhaust] using shorter

/-- All items that `next?` has left, each with the place behind it, and the stream that
has none left. -/
def drain (stream : ItemStream) : List (Item × Place) × ItemStream :=
  match _handed : stream.next? with
  | none => ([], stream)
  | some (item, after) =>
      let (later, final) := after.drain
      ((item, after.place) :: later, final)
termination_by stream.remaining
decreasing_by exact remaining_of_next? _handed

end ItemStream

end StyleLexer
