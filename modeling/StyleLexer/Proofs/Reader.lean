import StyleLexer.Proofs.Coverage
import StyleLexer.Proofs.OffsetLocations
import StyleLexer.Proofs.OffsetTrivia

/-!
# A reader by byte offsets

A reader keeps two byte offsets into the text, the start of the lexeme that it reads and the position
that it has reached, and it looks at the text through slices alone. What it does next is its state;
an item that it has found is pending until it is handed out. Every slice and every difference is
checked and no loop has a bound of its own, so that `none` stands for reading where no text is and
for reading on for ever.
-/

namespace StyleLexer

/-- What a reader does next. -/
inductive Reader.State where
  /-- Pass trivia and find the next lexeme. -/
  | seeking
  /-- Read a lexeme of the category. -/
  | reading (category : Category)
  /-- Nothing: the last item is pending, or has been handed out. -/
  | halted
deriving DecidableEq, Repr

/-- A reader of a text. -/
structure Reader where
  /-- The offset of the lexeme that is being read. -/
  start : Nat
  /-- The offset that has been reached. -/
  pos : Nat
  state : Reader.State
  place : Place := .initial
  /-- An item that has been found and not yet handed out. -/
  pending : Option Item := none
  /-- The last item, once it has been handed out. -/
  terminal : Option Item := none
  /-- The last item has been handed out to a caller that asks for no more. -/
  exhausted : Bool := false

namespace Reader

open Offsets Loop

/-- The reader with an item pending, behind which it seeks the next one. -/
def holding (reader : Reader) (item : Item) : Reader :=
  { reader with state := .seeking, place := .following item.kind item.value, pending := some item }

/-- The reader with its last item pending. -/
def halting (reader : Reader) (item : Item) : Reader :=
  { reader with state := .halted, pending := some item }

noncomputable section Steps

variable (text : List Char)

/-- The text between two offsets becomes an item. -/
def emitSlice? (reader : Reader) (kind : Kind) (left right : Nat) : Option Reader := do
  let value ← slice? text left right
  pure (reader.holding { kind, value := .ofList value, offset := left })

/-- The text of the lexeme becomes an item. -/
def emit? (reader : Reader) (kind : Kind) : Option Reader :=
  emitSlice? text reader kind reader.start reader.pos

/-- A fault at an offset becomes the last item. -/
def fail? (reader : Reader) (cause : Cause) (offset : Nat) : Option Reader := do
  let location ← locate? text offset
  pure (reader.halting (.ofFault { cause, location }))

/-- The end of the text becomes the last item. -/
def finish? (reader : Reader) : Option Reader := do
  let reader ← emit? text reader .endOfText
  pure { reader with state := .halted }

/-- Passes trivia and finds out how the next lexeme is read. -/
def seek? (reader : Reader) : Option Reader := do
  match ← triviaEnd? text reader.pos with
  | .error offset => fail? text reader .unclosedComment offset
  | .ok stop =>
      let reader := { reader with start := stop, pos := stop }
      let rest ← sliceFrom? text stop
      match Category.ofText? rest with
      | some category => pure { reader with state := .reading category }
      | none => finish? text reader

/-- The name that has been passed is one that is declared here. -/
def declares? (reader : Reader) : Option Bool := do
  if reader.place.allowsDeclaration then
    let next ← nextSignificant? text reader.pos
    pure (next.map Prod.snd == some ':')
  else pure false

/-- The colon that has been passed is one that introduces a command. -/
def introduces? (reader : Reader) : Option Bool :=
  if reader.place.allowsCommandColon then commandFollows? text reader.pos else some false

/-- Reads a variable name. -/
def readVariableName? (reader : Reader) : Option Reader := do
  let (_, nameStart) ← bump? text reader.pos
  let stop ← passWhile? text Identifier.isPart nameStart
  let reader := { reader with pos := stop }
  if stop = nameStart then fail? text reader (.strayCharacter '$') reader.start
  else
    let declares ← declares? text reader
    emit? text reader (if declares then .declaration else .reference)

/-- Reads an interpolation. The closing brace is passed behind the item. -/
def readInterpolation? (reader : Reader) : Option Reader := do
  let (_, brace) ← bump? text reader.pos
  let (_, body) ← bump? text brace
  let (closed, stop) ← passBody? text 0 body
  let reader := { reader with pos := stop }
  if closed then
    let reader ← emitSlice? text reader .reference body stop
    let (_, behind) ← bump? text stop
    pure { reader with pos := behind }
  else fail? text reader .unclosedInterpolation reader.start

/-- Reads a quoted literal. Its body begins one byte behind its start. -/
def readQuoted? (reader : Reader) : Option Reader := do
  let body := reader.start + 1
  let (closing, stop) ← passQuoted? text reader.pos
  let reader := { reader with pos := stop }
  match closing with
  | some closing =>
      let value ← slice? text body closing
      emitSlice? text reader (Literal.kind value) body closing
  | none => fail? text reader .unclosedQuote reader.start

/-- Reads a number. -/
def readNumber? (reader : Reader) : Option Reader := do
  let stop ← passWhile? text Char.isDigit reader.pos
  emit? text { reader with pos := stop } .integer

/-- Reads a directive. -/
def readDirective? (reader : Reader) : Option Reader := do
  let (_, nameStart) ← bump? text reader.pos
  let stop ← passWhile? text Identifier.isPart nameStart
  let reader := { reader with pos := stop }
  let name ← slice? text nameStart stop
  if name.isEmpty then fail? text reader (.strayCharacter '@') reader.start
  else emit? text reader (if name = "import".toList then .importDirective else .text)

/-- Reads a bare word. -/
def readWord? (reader : Reader) : Option Reader := do
  let stop ← passWhile? text Identifier.isPart reader.pos
  let reader := { reader with pos := stop }
  let next ← peek? text stop
  if next = some '(' then
    let name ← slice? text reader.start stop
    emit? text reader (if name = "sprite".toList then .spriteCommand else .command)
  else emit? text reader .text

/-- Reads a single mark, or a hash with the name behind it. -/
def readSymbol? (reader : Reader) : Option Reader := do
  match ← bump? text reader.pos with
  | (none, stop) => pure { reader with pos := stop, state := .halted }
  | (some c, behind) =>
      let reader := { reader with pos := behind }
      match c with
      | '-' => emit? text reader .minus
      | '(' => emit? text reader .openParen
      | ')' => emit? text reader .closeParen
      | '[' => emit? text reader .openBracket
      | ']' => emit? text reader .closeBracket
      | ':' =>
          let introduces ← introduces? text reader
          emit? text reader (if introduces then .commandColon else .punctuation)
      | '#' =>
          let stop ← passWhile? text Identifier.isPart behind
          let size ← subtract? stop reader.start
          emit? text { reader with pos := stop } (if 1 < size then .text else .punctuation)
      | c =>
          if Lexeme.isPunctuation c then emit? text reader .punctuation
          else fail? text reader (.strayCharacter c) reader.start

/-- Reads a lexeme of a category. -/
def read? (category : Category) (reader : Reader) : Option Reader :=
  match category with
  | .variableName => readVariableName? text reader
  | .interpolation => readInterpolation? text reader
  | .quoted => readQuoted? text reader
  | .number => readNumber? text reader
  | .directive => readDirective? text reader
  | .word => readWord? text reader
  | .symbol => readSymbol? text reader

/-- One step of a reader. A reader that has halted and has nothing to hand out goes to the end of
the text. -/
def step? (reader : Reader) : Option Reader :=
  match reader.state with
  | .seeking => seek? text reader
  | .reading category => read? text category reader
  | .halted => finish? text { reader with start := byteSize text, pos := byteSize text }

/-- The reader whose pending item has been handed out. -/
def handed (reader : Reader) (item : Item) : Reader :=
  { reader with
    pending := none, terminal := if item.kind.isEnding then some item else reader.terminal }

/-- Hands out the pending item, or takes a step. -/
def runTurn? (reader : Reader) : Option ((Item × Reader) ⊕ Reader) := do
  match reader.pending with
  | some item => done (item, reader.handed item)
  | none =>
      let later ← step? text reader
      again later

/-- Steps until an item is pending, and hands it out. -/
def run? : Reader → Option (Item × Reader) :=
  loop? (runTurn? text)

/-- The next item; the last one is repeated for ever. -/
def next? (reader : Reader) : Option (Item × Reader) :=
  match reader.terminal with
  | some item => some (item, reader)
  | none => run? text reader

/-- Takes one more item, up to the last one. -/
def collectTurn? : List Item × Reader → Option (List Item ⊕ (List Item × Reader)) :=
  fun (found, reader) => do
    if reader.exhausted then done found
    else
      let (item, after) ← next? text reader
      again (found ++ [item], { after with exhausted := item.kind.isEnding })

/-- The items found so far and all others up to the last one. -/
def collectFrom? (found : List Item) (reader : Reader) : Option (List Item) :=
  loop? (collectTurn? text) (found, reader)

/-- Takes one more item, up to the end of the text or to a fault. -/
def tokenizeTurn? :
    List Item × Reader → Option (Except Fault (List Item) ⊕ (List Item × Reader)) :=
  fun (found, reader) => do
    let (item, after) ← next? text reader
    match item.fault with
    | some fault => done (.error fault)
    | none =>
        if item.kind = .endOfText then done (.ok found)
        else again (found ++ [item], after)

/-- The items found so far and all others in front of the end of the text, or the first fault. -/
def tokenizeFrom? (found : List Item) (reader : Reader) : Option (Except Fault (List Item)) :=
  loop? (tokenizeTurn? text) (found, reader)

/-- A reader of a text whose caller expects a category, or nothing. A byte order mark is passed. -/
def open? (expected : Option Category) : Option Reader := do
  let start := textStart text
  let rest ← sliceFrom? text start
  let state :=
    match expected with
    | some category =>
        if Category.ofText? rest = some category then .reading category else .seeking
    | none => .seeking
  pure { start, pos := start, state }

/-- All items of a text. -/
def items? (expected : Option Category) : Option (List Item) := do
  let reader ← open? text expected
  collectFrom? text [] reader

/-- All items of a text without its end, or the first fault. -/
def tokenize? : Option (Except Fault (List Item)) := do
  let reader ← open? text none
  tokenizeFrom? text [] reader

end Steps

/-- The readers that come about in reading a text: one step is taken after the other while there is
nothing to hand out, and the item that a step has found is handed out. -/
inductive Reached (expected : Option Category) (text : List Char) : Reader → Prop where
  | opened {reader : Reader} (opens : open? text expected = some reader) :
      Reached expected text reader
  | stepped {reader later : Reader} (reached : Reached expected text reader)
      (idle : reader.pending = none) (goesOn : reader.terminal = none)
      (step : step? text reader = some later) : Reached expected text later
  | handed {reader : Reader} {item : Item} (reached : Reached expected text reader)
      (pending : reader.pending = some item) : Reached expected text (reader.handed item)
  | exhausted {reader : Reader} (reached : Reached expected text reader)
      (ended : reader.terminal ≠ none) : Reached expected text { reader with exhausted := true }

end Reader

end StyleLexer
