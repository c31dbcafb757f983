import StyleLexer.Proofs.Hints
import StyleLexer.Proofs.ReaderSteps

/-!
# Readers keep up with scanners

`Reader.Tracks` relates a reader to a scanner that has come as far. One step of the reader answers
one step of the scanner, so a reader never fails where a scanner goes on, it finds the same items,
and its offsets stay boundaries of the text.
-/

namespace StyleLexer.Reader

open Offsets Loop

/-- Two offsets are boundaries of the text, and the first is not behind the second. -/
structure InBounds (text : List Char) (left right : Nat) : Prop where
  start : IsBoundary text left
  pos : IsBoundary text right
  ordered : left ≤ right

/-- The reader and the scanner have come equally far and do the same next. A reader only ever reads a
lexeme of the category that opens where it is. -/
structure Tracks (text : List Char) (reader : Reader) (scanner : Scanner) : Prop where
  stands : scanner.cursor.StandsIn text
  pos : reader.pos = scanner.cursor.location.offset
  place : reader.place = scanner.place
  bounds : InBounds text reader.start reader.pos
  idle : reader.pending = none
  goesOn : reader.terminal = none
  task : scanner.phase = .seeking ∧ reader.state = .seeking ∨
    scanner.phase = .reading ∧ reader.start = reader.pos ∧
      ∃ category, reader.state = .reading category ∧
        Category.ofText? scanner.cursor.rest = some category

/-- What a step of a reader comes to, next to the step of the scanner that it tracks. -/
inductive StepsTo (text : List Char) (reader : Reader) : Scanner.Step → Reader → Prop where
  | silent {after : Scanner} {next : Reader} (tracks : next.Tracks text after)
      (ordered : reader.pos ≤ next.pos) : StepsTo text reader (.silent after) next
  | lexeme {item : Item} {after : Scanner} {next : Reader} (goesOn : item.kind.isEnding = false)
      (pending : next.pending = some item) (tracks : (next.handed item).Tracks text after)
      (further : reader.pos < next.pos) : StepsTo text reader (.yield item after) next
  | last {item : Item} {after : Scanner} {next : Reader} (ending : item.kind.isEnding = true)
      (pending : next.pending = some item) (bounds : InBounds text next.start next.pos)
      (unhanded : next.terminal = none) : StepsTo text reader (.yield item after) next

variable {text : List Char} {reader : Reader} {scanner : Scanner} {item : Item}

/-- An item that does not end the stream leaves the reader without a last one. -/
theorem handed_of_goesOn (goesOn : item.kind.isEnding = false) :
    reader.handed item = { reader with pending := none } := by
  rw [handed, goesOn]
  rfl

/-- An item that ends the stream is kept. -/
theorem handed_of_ending (ending : item.kind.isEnding = true) :
    reader.handed item = { reader with pending := none, terminal := some item } := by
  rw [handed, ending]
  rfl

/-- The end of the text is an item without text. -/
theorem finish?_eq {stop : Nat} {rest : List Char} (ahead : Ahead text stop rest) :
    finish? text { reader with start := stop, pos := stop } =
      some (halting { reader with start := stop, pos := stop, place := .following .endOfText "" }
        { kind := .endOfText, value := "", offset := stop }) := by
  have nothing : Ahead text stop ([] ++ rest) := ahead
  have emitted : emit? text { reader with start := stop, pos := stop } .endOfText = some _ :=
    emitSlice?_eq .endOfText nothing
  rw [finish?, emitted]
  rfl

/-- Seeking comes to a fault, to the end of the text, or to the start of a lexeme. -/
theorem seek?_stepsTo (tracks : reader.Tracks text scanner) (seeking : scanner.phase = .seeking) :
    ∃ next, seek? text reader = some next ∧ StepsTo text reader scanner.step next := by
  have behind := tracks.stands.skip
  have passed : reader.pos ≤ (Trivia.skip scanner.cursor).location.offset := by
    rw [tracks.pos]
    exact Trivia.offset_le_skip scanner.cursor
  rw [seek?, tracks.pos, tracks.stands.triviaEnd?_eq, Scanner.step, seeking]
  simp only [Option.bind_eq_bind, Option.bind_some, Scanner.settle]
  by_cases comment : Trivia.opensBlockComment (Trivia.skip scanner.cursor).rest = true
  · simp only [comment, if_true]
    refine ⟨_, fail?_eq .unclosedComment behind, ?_⟩
    exact .last rfl rfl tracks.bounds tracks.goesOn
  · simp only [comment, Bool.false_eq_true, if_false, behind.ahead.sliceFrom?_eq, Option.bind_some]
    have here := behind.ahead.isBoundary
    cases rest : (Trivia.skip scanner.cursor).rest with
    | nil =>
        have ending := behind.ahead
        rw [rest] at ending
        have item : Item.ofEnd (Trivia.skip scanner.cursor).toEnd.location =
            { kind := .endOfText, value := "", offset := (Trivia.skip scanner.cursor).location.offset } := by
          rw [Cursor.toEnd, rest]
          rfl
        refine ⟨_, finish?_eq ending, ?_⟩
        exact .last rfl (congrArg some item.symm) ⟨here, here, Nat.le_refl _⟩ tracks.goesOn
    | cons first later =>
        refine ⟨_, rfl, .silent ?_ passed⟩
        exact {
          stands := behind
          pos := rfl
          place := tracks.place
          bounds := ⟨here, here, Nat.le_refl _⟩
          idle := tracks.idle
          goesOn := tracks.goesOn
          task := .inr ⟨rfl, rfl, _, rfl, by rw [rest]; rfl⟩ }

/-- What reading a lexeme brings a reader to is where the scanner goes. -/
theorem ReadsTo.stepsTo_emit {lexeme : Lexeme} {behind : List Char} {next : Reader}
    (reads : ReadsTo text reader scanner.cursor (.ok (lexeme, behind)) next)
    (tracks : reader.Tracks text scanner) (fits : lexeme.Fits behind)
    (whole : scanner.cursor.rest = lexeme.source ++ behind) :
    StepsTo text reader (scanner.emit lexeme behind) next := by
  have passed : 0 < byteSize lexeme.source :=
    Nat.pos_of_ne_zero (mt byteSize_eq_zero_iff.mp (Lexeme.source_ne_nil fits))
  have moved := tracks.stands.move whole
  have position : reader.pos + byteSize lexeme.source =
      (scanner.cursor.move lexeme.source behind).location.offset := by
    rw [Cursor.offset_move, tracks.pos]
  have goesOn := Lexeme.isEnding_kind scanner.place (scanner.cursor.move lexeme.source behind) lexeme
  cases reads with
  | lexeme =>
      rw [tracks.place]
      refine .lexeme goesOn rfl ?_ (Nat.lt_add_of_pos_right passed)
      exact {
        stands := moved
        pos := position
        place := rfl
        bounds :=
          ⟨tracks.bounds.start, position ▸ moved.ahead.isBoundary,
            Nat.le_trans tracks.bounds.ordered (Nat.le_add_right _ _)⟩
        idle := rfl
        goesOn := by
          rw [handed_of_goesOn goesOn]
          exact tracks.goesOn
        task := .inl ⟨rfl, rfl⟩ }

/-- What a fault brings a reader to is where the scanner stops. -/
theorem ReadsTo.stepsTo_stop {cause : Cause} {next : Reader}
    (reads : ReadsTo text reader scanner.cursor (.error cause) next)
    (tracks : reader.Tracks text scanner) : StepsTo text reader (scanner.stop cause) next := by
  cases reads with
  | fault behind boundary =>
      have ordered := Nat.le_trans tracks.bounds.ordered behind
      exact .last rfl rfl ⟨tracks.bounds.start, boundary, ordered⟩ tracks.goesOn

/-- Reading comes to an item or to a fault. -/
theorem read?_stepsTo {category : Category} (tracks : reader.Tracks text scanner)
    (reading : scanner.phase = .reading) (start : reader.start = reader.pos)
    (opens : Category.ofText? scanner.cursor.rest = some category) :
    ∃ next, read? text category reader = some next ∧ StepsTo text reader scanner.step next := by
  cases rest : scanner.cursor.rest with
  | nil =>
      rw [rest] at opens
      cases opens
  | cons first later =>
      rw [rest] at opens
      obtain rfl := Option.some.inj opens
      obtain ⟨next, found, reads⟩ :=
        read?_reads ⟨tracks.stands, start.trans tracks.pos, tracks.pos⟩ rest
      refine ⟨next, found, ?_⟩
      simp only [Scanner.step, reading, Scanner.readLexeme, rest]
      cases outcome : Lexeme.read first later with
      | error cause =>
          rw [outcome] at reads
          exact reads.stepsTo_stop tracks
      | ok parts =>
          obtain ⟨lexeme, behind⟩ := parts
          obtain ⟨source, fits⟩ := Lexeme.read_eq_ok_iff.mp outcome
          rw [outcome] at reads
          exact reads.stepsTo_emit tracks fits (rest.trans source)

/-- One step of a reader answers one step of the scanner that it tracks. -/
theorem step?_stepsTo (tracks : reader.Tracks text scanner) :
    ∃ next, step? text reader = some next ∧ StepsTo text reader scanner.step next := by
  obtain ⟨seeking, state⟩ | ⟨reading, start, category, state, opens⟩ := tracks.task
  · rw [step?, state]
    exact seek?_stepsTo tracks seeking
  · rw [step?, state]
    exact read?_stepsTo tracks reading start opens

/-- Handing out an item leaves the reader further on, where it tracks the scanner again, or with the
last item. -/
inductive HandsOut (text : List Char) (reader : Reader) (item : Item) (after : Scanner) :
    Reader → Prop where
  | goesOn {later : Reader} (goesOn : item.kind.isEnding = false) (tracks : later.Tracks text after)
      (further : reader.pos < later.pos) : HandsOut text reader item after later
  | ends {later : Reader} (ending : item.kind.isEnding = true)
      (terminal : later.terminal = some item) : HandsOut text reader item after later

theorem run?_turn (text : List Char) (reader : Reader) :
    run? text reader = follow (run? text) (runTurn? text reader) :=
  loop?_eq _ _

/-- A pending item is handed out at once. -/
theorem run?_of_pending (pending : reader.pending = some item) :
    run? text reader = some (item, reader.handed item) := by
  rw [run?_turn, runTurn?, pending]
  rfl

/-- With nothing pending a run goes on behind a step. -/
theorem run?_of_step? {next : Reader} (idle : reader.pending = none)
    (stepped : step? text reader = some next) : run? text reader = run? text next := by
  rw [run?_turn, runTurn?, idle, stepped]
  rfl

/-- A run ends, with the item that the scanner finds. -/
theorem run?_handsOut {after : Scanner} (tracks : reader.Tracks text scanner)
    (found : scanner.next = (item, after)) :
    ∃ later, run? text reader = some (item, later) ∧ HandsOut text reader item after later := by
  obtain ⟨next, stepped, comes⟩ := step?_stepsTo tracks
  fun_induction Scanner.next scanner generalizing reader next with
  | case1 scanner item' after' yields =>
      obtain ⟨rfl, rfl⟩ := Prod.mk.inj found
      rw [yields] at comes
      rw [run?_of_step? tracks.idle stepped]
      cases comes with
      | lexeme goesOn pending tracks further =>
          exact ⟨_, run?_of_pending pending, .goesOn goesOn tracks further⟩
      | last ending pending bounds unhanded =>
          refine ⟨_, run?_of_pending pending, .ends ending ?_⟩
          rw [handed_of_ending ending]
  | case2 scanner later silent inductionHypothesis =>
      rw [silent] at comes
      rw [run?_of_step? tracks.idle stepped]
      cases comes with
      | silent tracks ordered =>
          obtain ⟨last, stepped, comes⟩ := step?_stepsTo tracks
          obtain ⟨behind, ran, handsOut⟩ := inductionHypothesis tracks found last stepped comes
          refine ⟨behind, ran, ?_⟩
          cases handsOut with
          | goesOn goesOn tracks further =>
              exact .goesOn goesOn tracks (Nat.lt_of_le_of_lt ordered further)
          | ends ending terminal => exact .ends ending terminal

/-- Asking for an item is a run as long as the last one has not been handed out. -/
theorem next?_handsOut {after : Scanner} (tracks : reader.Tracks text scanner)
    (found : scanner.next = (item, after)) :
    ∃ later, next? text reader = some (item, later) ∧ HandsOut text reader item after later := by
  rw [next?, tracks.goesOn]
  exact run?_handsOut tracks found

/-- Whether a caller asks for more makes no difference to the reader. -/
theorem Tracks.ask (tracks : reader.Tracks text scanner) (exhausted : Bool) :
    Tracks text { reader with exhausted } scanner := by
  exact { tracks with }

theorem collectFrom?_turn (text : List Char) (found : List Item) (reader : Reader) :
    collectFrom? text found reader =
      follow (fun (found, reader) => collectFrom? text found reader)
        (collectTurn? text (found, reader)) :=
  loop?_eq _ _

/-- All items are collected, and they are those of the stream. -/
theorem collectFrom?_eq {reader : Reader} {scanner : Scanner} (found : List Item)
    (tracks : reader.Tracks text scanner) (fresh : reader.exhausted = false) :
    collectFrom? text found reader = some (found ++ ItemStream.items { scanner }) := by
  cases scanned : scanner.next with
  | mk item after =>
      obtain ⟨later, handed, handsOut⟩ := next?_handsOut tracks scanned
      rw [collectFrom?_turn, collectTurn?, fresh, ItemStream.items_of_next scanned]
      simp only [Bool.false_eq_true, if_false, handed, Option.bind_eq_bind, Option.bind_some,
        follow_again]
      cases handsOut with
      | goesOn goesOn tracks further =>
          have shorter := Scanner.length_of_next scanned goesOn
          rw [collectFrom?_eq (found ++ [item]) (tracks.ask item.kind.isEnding) goesOn, goesOn]
          exact congrArg some (List.append_assoc found [item] _)
      | ends ending terminal =>
          rw [collectFrom?_turn, collectTurn?, ending]
          rfl
termination_by scanner.cursor.rest.length

theorem tokenizeFrom?_turn (text : List Char) (found : List Item) (reader : Reader) :
    tokenizeFrom? text found reader =
      follow (fun (found, reader) => tokenizeFrom? text found reader)
        (tokenizeTurn? text (found, reader)) :=
  loop?_eq _ _

/-- The items in front of the end of the text, or the first fault, are found. -/
theorem tokenizeFrom?_eq {reader : Reader} {scanner : Scanner} (found : List Item)
    (tracks : reader.Tracks text scanner) :
    tokenizeFrom? text found reader = some (scanner.items.map (found ++ ·)) := by
  cases scanned : scanner.next with
  | mk item after =>
      obtain ⟨later, handed, handsOut⟩ := next?_handsOut tracks scanned
      rw [tokenizeFrom?_turn, tokenizeTurn?, handed, Scanner.items_of_next scanned]
      simp only [Option.bind_eq_bind, Option.bind_some]
      cases faultless : item.fault with
      | some fault => rfl
      | none =>
          by_cases atEnd : item.kind = .endOfText
          · simp only [atEnd, if_true, follow_done]
            exact congrArg (some ∘ Except.ok) (List.append_nil found).symm
          · simp only [atEnd, if_false, follow_again]
            have goesOn := Scanner.kind_of_next scanned faultless atEnd
            have shorter := Scanner.length_of_next scanned goesOn
            cases handsOut with
            | ends ending terminal => cases goesOn.symm.trans ending
            | goesOn goesOn tracks further =>
                rw [tokenizeFrom?_eq (found ++ [item]) tracks]
                cases after.items with
                | error fault => rfl
                | ok rest =>
                    refine congrArg (some ∘ Except.ok) ?_
                    exact List.append_assoc found [item] rest
termination_by scanner.cursor.rest.length

/-- A reader and a scanner may begin at any cursor. -/
theorem Tracks.of_start {cursor : Cursor} {phase : Phase} {state : State}
    (stands : cursor.StandsIn text)
    (task : phase = .seeking ∧ state = .seeking ∨
      phase = .reading ∧ ∃ category, state = .reading category ∧
        Category.ofText? cursor.rest = some category) :
    Tracks text { start := cursor.location.offset, pos := cursor.location.offset, state }
      { cursor, phase } where
  stands := stands
  pos := rfl
  place := rfl
  bounds := ⟨stands.ahead.isBoundary, stands.ahead.isBoundary, Nat.le_refl _⟩
  idle := rfl
  goesOn := rfl
  task := task.imp_right (fun reads => ⟨reads.1, rfl, reads.2⟩)

/-- A reader of a text starts where the scanner of its stream does. -/
theorem open?_tracks (expected : Option Category) (text : String) :
    ∃ reader scanner, open? text.toList expected = some reader ∧
      ItemStream.expecting expected text = { scanner } ∧ reader.Tracks text.toList scanner ∧
      reader.exhausted = false := by
  have stands := Cursor.standsIn_ofText text.toList
  have offset : textStart text.toList = (Cursor.ofText text.toList).location.offset := by
    obtain ⟨rest, _, opened⟩ := Cursor.exists_ofText text.toList
    rw [opened, ← byteSize_leadingMark, Cursor.between_offset]
  rw [open?, offset, stands.ahead.sliceFrom?_eq]
  cases expected with
  | none => exact ⟨_, .ofText text.toList, rfl, rfl, .of_start stands (.inl ⟨rfl, rfl⟩), rfl⟩
  | some category =>
      refine ⟨_, .startingAt category text.toList, rfl, rfl, .of_start stands ?_, rfl⟩
      by_cases opens : Category.ofText? (Cursor.ofText text.toList).rest = some category
      · simp [opens]
      · simp [opens]

/-- Reading a text item by item comes to the items of its stream. -/
theorem items?_eq (expected : Option Category) (text : String) :
    items? text.toList expected = some (ItemStream.expecting expected text).items := by
  obtain ⟨reader, scanner, opened, stream, tracks, fresh⟩ := open?_tracks expected text
  rw [items?, opened, stream]
  exact collectFrom?_eq [] tracks fresh

/-- Reading a text at once comes to its items, or to its fault. -/
theorem tokenize?_eq (text : String) : tokenize? text.toList = some (StyleLexer.items text) := by
  obtain ⟨reader, scanner, opened, stream, tracks, _⟩ := open?_tracks none text
  obtain rfl : Scanner.ofText text.toList = scanner := congrArg ItemStream.scanner stream
  rw [tokenize?, opened]
  refine (tokenizeFrom?_eq [] tracks).trans (congrArg some ?_)
  unfold StyleLexer.items
  cases (Scanner.ofText text.toList).items with
  | error fault => rfl
  | ok found => rfl

/-- All that a reader can have come to: it tracks a scanner, or it has an item pending behind which it
does, or its last item is pending, or has been handed out. -/
inductive Stage (text : List Char) (reader : Reader) : Prop where
  | tracking {scanner : Scanner} (tracks : reader.Tracks text scanner)
  | holding {item : Item} {scanner : Scanner} (goesOn : item.kind.isEnding = false)
      (pending : reader.pending = some item) (tracks : (reader.handed item).Tracks text scanner)
  | closing {item : Item} (ending : item.kind.isEnding = true) (pending : reader.pending = some item)
      (unhanded : reader.terminal = none) (bounds : InBounds text reader.start reader.pos)
  | closed {item : Item} (ending : item.kind.isEnding = true)
      (terminal : reader.terminal = some item) (idle : reader.pending = none)
      (bounds : InBounds text reader.start reader.pos)

namespace Stage

/-- At every stage the offsets are boundaries. -/
theorem inBounds (stage : reader.Stage text) : InBounds text reader.start reader.pos := by
  cases stage with
  | tracking tracks => exact tracks.bounds
  | holding goesOn pending tracks => exact tracks.bounds
  | closing ending pending unhanded bounds => exact bounds
  | closed ending terminal idle bounds => exact bounds

/-- A reader that has nothing to hand out tracks a scanner. -/
theorem exists_tracks (stage : reader.Stage text) (idle : reader.pending = none)
    (goesOn : reader.terminal = none) : ∃ scanner, reader.Tracks text scanner := by
  cases stage with
  | tracking tracks => exact ⟨_, tracks⟩
  | holding _ pending tracks => cases idle.symm.trans pending
  | closing ending pending unhanded bounds => cases idle.symm.trans pending
  | closed ending terminal _ bounds => cases goesOn.symm.trans terminal

/-- What a reader repeats is the last item. -/
theorem isEnding_of_terminal (stage : reader.Stage text) (terminal : reader.terminal = some item) :
    item.kind.isEnding = true := by
  cases stage with
  | tracking tracks => cases tracks.goesOn.symm.trans terminal
  | holding goesOn pending tracks =>
      have unhanded := tracks.goesOn
      rw [handed_of_goesOn goesOn] at unhanded
      cases unhanded.symm.trans terminal
  | closing ending pending unhanded bounds => cases unhanded.symm.trans terminal
  | closed ending terminal' idle bounds =>
      obtain rfl := Option.some.inj (terminal'.symm.trans terminal)
      exact ending

/-- A step leads from stage to stage. -/
theorem of_stepsTo {step : Scanner.Step} {next : Reader} (comes : StepsTo text reader step next) :
    next.Stage text := by
  cases comes with
  | silent tracks ordered => exact .tracking tracks
  | lexeme goesOn pending tracks further => exact .holding goesOn pending tracks
  | last ending pending bounds unhanded => exact .closing ending pending unhanded bounds

/-- Handing out the pending item leads from stage to stage. -/
theorem handed (stage : reader.Stage text) (pending : reader.pending = some item) :
    (reader.handed item).Stage text := by
  cases stage with
  | tracking tracks => cases tracks.idle.symm.trans pending
  | holding goesOn pending' tracks =>
      obtain rfl := Option.some.inj (pending'.symm.trans pending)
      exact .tracking tracks
  | closing ending pending' unhanded bounds =>
      obtain rfl := Option.some.inj (pending'.symm.trans pending)
      rw [handed_of_ending ending]
      exact .closed ending rfl rfl bounds
  | closed ending terminal idle bounds => cases idle.symm.trans pending

/-- A caller that asks for no more leaves a reader that has handed out its last item at its stage. -/
theorem exhausted (stage : reader.Stage text) (ended : reader.terminal ≠ none) :
    Stage text { reader with exhausted := true } := by
  cases stage with
  | tracking tracks => exact absurd tracks.goesOn ended
  | holding goesOn pending tracks =>
      have unhanded := tracks.goesOn
      rw [handed_of_goesOn goesOn] at unhanded
      exact absurd unhanded ended
  | closing ending pending unhanded bounds => exact absurd unhanded ended
  | closed ending terminal idle bounds => exact .closed ending terminal idle bounds

end Stage

/-- Every reader that comes about is at one of the stages. -/
theorem Reached.stage {expected : Option Category} {text : String}
    (reached : Reached expected text.toList reader) : reader.Stage text.toList := by
  induction reached with
  | opened opens =>
      obtain ⟨first, scanner, opened, _, tracks, _⟩ := open?_tracks expected text
      obtain rfl := Option.some.inj (opened.symm.trans opens)
      exact .tracking tracks
  | stepped reached idle goesOn stepped stage =>
      obtain ⟨scanner, tracks⟩ := stage.exists_tracks idle goesOn
      obtain ⟨next, found, comes⟩ := step?_stepsTo tracks
      obtain rfl := Option.some.inj (found.symm.trans stepped)
      exact .of_stepsTo comes
  | handed reached pending stage => exact stage.handed pending
  | exhausted reached ended stage => exact stage.exhausted ended

end StyleLexer.Reader
