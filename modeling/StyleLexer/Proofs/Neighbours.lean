import StyleLexer.Proofs.Coverage
import StyleLexer.Proofs.TokenLists

/-!
# Items and their neighbours

A kind is decided before the text behind the item is read. `items_fit_neighbours` says that
what is read there never contradicts the decision: the kinds of variable names, colons and
commands are functions of the items right before and right behind them.

Which items are variable names and colons is a matter of the text and not of their kinds: the
bytes of the item begin where its value does, with no quote and no brace in front of it, and
the value begins with a dollar sign or is a colon.
-/

namespace StyleLexer

namespace Item

/-- The item is a colon of the text. -/
def isColon (item : Item) : Bool :=
  item.value == ":" && (item.kind == .punctuation || item.kind == .commandColon)

/-- The item is the name of a command. -/
def isCommand (item : Item) : Bool :=
  item.kind == .command || item.kind == .spriteCommand

/-- An item that ends a stream is no colon. -/
theorem isColon_of_isEnding {item : Item} (ending : item.kind.isEnding = true) :
    item.isColon = false := by
  apply Bool.eq_false_iff.mpr
  intro colon
  simp only [isColon, Bool.and_eq_true, Bool.or_eq_true, beq_iff_eq] at colon
  rcases colon.2 with kind | kind
  · exact Kind.ne_of_isEnding ending rfl kind
  · exact Kind.ne_of_isEnding ending rfl kind

/-- An item that ends a stream is no command. -/
theorem isCommand_of_isEnding {item : Item} (ending : item.kind.isEnding = true) :
    item.isCommand = false := by
  apply Bool.eq_false_iff.mpr
  intro command
  simp only [isCommand, Bool.or_eq_true, beq_iff_eq] at command
  rcases command with kind | kind
  · exact Kind.ne_of_isEnding ending rfl kind
  · exact Kind.ne_of_isEnding ending rfl kind

/-- The item is a variable name that stands in the text by itself, not as the body of an
interpolation. -/
def IsVariable (text : List Char) (item : Item) : Prop :=
  (item.kind = .declaration ∨ item.kind = .reference) ∧
    ¬ ∃ left right, Slice text left right (['#', '\x7b'] ++ item.value.toList ++ ['\x7d']) ∧
      item.offset = left + 2

end Item

namespace Place

/-- A declaration is possible behind the marks that end a statement and nothing else. -/
theorem allowsDeclaration_following (item : Item) :
    (following item.kind item.value).allowsDeclaration = item.endsStatement := by
  rw [following_eq]
  cases item.endsStatement with
  | true => rfl
  | false =>
      rw [if_neg Bool.false_ne_true]
      split <;> rfl

/-- A command may be introduced behind declared names and nothing else. -/
theorem allowsCommandColon_following (item : Item) :
    (following item.kind item.value).allowsCommandColon = (item.kind == .declaration) := by
  unfold following
  cases item.kind with
  | punctuation =>
      dsimp only
      split <;> rfl
  | _ => rfl

/-- A declaration is possible first in a text and behind the end of a statement. -/
theorem allowsDeclaration_behind (items : List Item) :
    (initial.behind items).allowsDeclaration = items.getLast?.all Item.endsStatement := by
  unfold behind
  cases items.getLast? with
  | none => rfl
  | some item => exact allowsDeclaration_following item

/-- A command may be introduced where the item before is a declared name. -/
theorem allowsCommandColon_behind (items : List Item) :
    (initial.behind items).allowsCommandColon =
      items.getLast?.any fun item => item.kind == .declaration := by
  unfold behind
  cases items.getLast? with
  | none => rfl
  | some item => exact allowsCommandColon_following item

end Place

namespace Lexeme

variable {lexeme : Lexeme} {rest : List Char}

/-- A lexeme with nothing in front of its value has nothing behind it either. -/
theorem value_of_lead (bare : lexeme.lead = 0) : lexeme.value = lexeme.source := by
  cases lexeme with
  | interpolation body => cases bare
  | quoted quote body => cases bare
  | _ => rfl

/-- The variable names are the lexemes that begin with a dollar sign. -/
theorem exists_variableName_iff (fits : lexeme.Fits rest) :
    (∃ name, lexeme = .variableName name) ↔
      lexeme.lead = 0 ∧ lexeme.value.head? = some '$' := by
  constructor
  · rintro ⟨name, rfl⟩
    exact ⟨rfl, rfl⟩
  · rintro ⟨bare, dollar⟩
    rw [value_of_lead bare] at dollar
    obtain ⟨later, source⟩ := List.head?_eq_some_iff.mp dollar
    have reading : read '$' (later ++ rest) = .ok (lexeme, rest) :=
      read_of_fits fits (by rw [source]; rfl)
    have category : Category.opening '$' (later ++ rest) = .variableName := rfl
    simp only [read, category] at reading
    split at reading
    · cases reading
    · exact ⟨_, (Prod.mk.inj (Except.ok.inj reading)).1.symm⟩

/-- The colon is the lexeme that covers a colon and nothing else. -/
theorem eq_colon_iff (fits : lexeme.Fits rest) :
    lexeme = .symbol ':' ↔ lexeme.lead = 0 ∧ lexeme.value = [':'] := by
  constructor
  · rintro rfl
    exact ⟨rfl, rfl⟩
  · rintro ⟨bare, colon⟩
    rw [value_of_lead bare] at colon
    have reading : read ':' rest = .ok (lexeme, rest) :=
      read_of_fits fits (by rw [colon]; rfl)
    have alone : read ':' rest = .ok (.symbol ':', rest) :=
      read_of_fits (fits_of_standsAlone (by decide) rest) rfl
    exact (Prod.mk.inj (Except.ok.inj (reading.symm.trans alone))).1

end Lexeme

namespace Token

variable (place : Place) (later : List Token) (token : Token)

/-- The colons among the items are those of the text. -/
theorem isColon_item :
    (token.item place later).isColon = true ↔ token.lexeme = .symbol ':' := by
  simp only [Item.isColon, item, Bool.and_eq_true, Bool.or_eq_true, beq_iff_eq]
  obtain ⟨name, lexeme, kind⟩ | ⟨text, lexeme, kind⟩ | ⟨lexeme, kind⟩ | fixed :=
    kind_cases place later token
  · rw [kind, lexeme]
    split <;> simp
  · rw [kind, lexeme]
    (repeat' split) <;> simp
  · rw [kind, lexeme]
    split <;> simp [Lexeme.value, Lexeme.source]
  · simp only [fixed.notColon, fixed.notCommandColon, or_false, iff_false, not_and]
    intro value punctuation
    obtain ⟨c, lexeme⟩ := fixed.symbol punctuation
    apply fixed.notColon
    have chars := congrArg String.toList value
    rw [lexeme] at chars ⊢
    simpa [Lexeme.value, Lexeme.source] using chars

/-- The commands among the items are the words in front of a parenthesis. -/
theorem isCommand_item :
    (token.item place later).isCommand = true ↔
      (∃ text, token.lexeme = .word text) ∧ parenthesisAt token.finish later = true := by
  simp only [Item.isCommand, item, Bool.or_eq_true, beq_iff_eq]
  obtain ⟨name, lexeme, kind⟩ | ⟨text, lexeme, kind⟩ | ⟨lexeme, kind⟩ | fixed :=
    kind_cases place later token
  · rw [kind, lexeme]
    split <;> simp
  · rw [kind]
    by_cases follows : parenthesisAt token.finish later = true
    · rw [if_pos follows]
      split <;> simp [follows, lexeme]
    · rw [if_neg follows]
      simp [follows]
  · rw [kind, lexeme]
    split <;> simp
  · simp [fixed.notCommand, fixed.notSpriteCommand, fixed.notWord]

variable {place later token}

/-- The items of variables are those of the variable names. -/
theorem isVariable_item_iff {text : List Char} (stands : token.StandsIn text) :
    (token.item place later).IsVariable text ↔ ∃ name, token.lexeme = .variableName name := by
  obtain ⟨front, rest, whole, offset, fresh, _⟩ := stands
  constructor
  · rintro ⟨declaration | reference, alone⟩
    · exact ((kind_eq_declaration_iff _ _ _).mp declaration).1
    · rcases exists_of_kind_eq_reference _ _ _ reference with isName | ⟨body, lexeme⟩
      · exact isName
      · refine absurd ⟨token.offset, _, ⟨front, rest, ?_, offset, rfl⟩, ?_⟩ alone
        · simpa [item, lexeme, Lexeme.source, Lexeme.value] using whole
        · simp [item, lexeme, Lexeme.lead]
  · rintro ⟨name, lexeme⟩
    constructor
    · simp only [item, kind, lexeme]
      split
      · exact .inl rfl
      · exact .inr rfl
    · rintro ⟨left, right, ⟨before, after, whole', size, _⟩, inside⟩
      have sizes : byteSize front = byteSize (before ++ ['#', '\x7b']) := by
        have marks : byteSize ['#', '\x7b'] = 2 := rfl
        have noLead : (token.item place later).offset = token.offset := by
          simp [item, lexeme, Lexeme.lead]
        rw [byteSize_append, marks, offset, size, ← noLead, inside]
      have both := whole.symm.trans whole'
      simp only [List.append_assoc] at both
      rw [← List.append_assoc before] at both
      exact fresh.notBehind before (eq_of_byteSize_eq both sizes)

/-- The item of a token begins where the token does, unless it stands between delimiters. -/
theorem offset_eq_offset_item_iff :
    some token.offset = some (token.item place later).offset ↔ token.lexeme.lead = 0 := by
  simp [item]

/-- The variable names stand by themselves and begin with a dollar sign. -/
theorem exists_variableName_iff {text : List Char} (stands : token.StandsIn text) :
    (∃ name, token.lexeme = .variableName name) ↔
      some token.offset = some (token.item place later).offset ∧
        (token.item place later).value.toList.head? = some '$' := by
  obtain ⟨_, _, _, _, _, fits⟩ := stands
  rw [offset_eq_offset_item_iff, Lexeme.exists_variableName_iff fits]
  simp [item]

/-- The colons stand by themselves and are a colon. -/
theorem lexeme_eq_colon_iff {text : List Char} (stands : token.StandsIn text) :
    token.lexeme = .symbol ':' ↔
      some token.offset = some (token.item place later).offset ∧
        (token.item place later).value = ":" := by
  obtain ⟨_, _, _, _, _, fits⟩ := stands
  rw [offset_eq_offset_item_iff, Lexeme.eq_colon_iff fits, ← String.toList_inj]
  simp [item]

/-- A symbol that comes next is the first token. -/
theorem exists_of_symbolLeads {c : Char} (leads : symbolLeads c later = true) :
    ∃ token tokens, later = token :: tokens ∧ token.lexeme = .symbol c := by
  cases later with
  | nil => cases leads
  | cons token tokens => exact ⟨token, tokens, rfl, by simpa [symbolLeads] using leads⟩

/-- A parenthesis at an offset is the first token. -/
theorem exists_of_parenthesisAt {offset : Nat} (here : parenthesisAt offset later = true) :
    ∃ tokens, later = ⟨.symbol '(', offset⟩ :: tokens := by
  cases later with
  | nil => cases here
  | cons token tokens =>
      obtain ⟨lexeme, offset'⟩ := token
      simp only [parenthesisAt, Bool.and_eq_true, beq_iff_eq] at here
      obtain ⟨rfl, rfl⟩ := here
      exact ⟨tokens, rfl⟩

/-- A call comes next where the first token is a word with a parenthesis behind it. -/
theorem callLeads_iff :
    callLeads later = true ↔
      ∃ token tokens, later = token :: tokens ∧ (∃ text, token.lexeme = .word text) ∧
        parenthesisAt token.finish tokens = true := by
  constructor
  · intro leads
    unfold callLeads at leads
    split at leads
    · rename_i text offset tokens
      exact ⟨⟨.word text, offset⟩, tokens, rfl, ⟨text, rfl⟩, leads⟩
    · cases leads
  · rintro ⟨⟨lexeme, offset⟩, tokens, rfl, ⟨text, rfl⟩, follows⟩
    exact follows

/-- The item of a command is followed by that of its parenthesis. -/
theorem items_of_parenthesisAt (word : ∃ text, token.lexeme = .word text)
    (follows : parenthesisAt token.finish later = true) (before after : Place) :
    ∃ parenthesis rest, items before later = parenthesis :: rest ∧
      parenthesis.kind = .openParen ∧
        parenthesis.offset =
          (token.item after later).offset + (token.item after later).value.utf8ByteSize := by
  obtain ⟨tokens, rfl⟩ := exists_of_parenthesisAt follows
  obtain ⟨text, lexeme⟩ := word
  refine ⟨_, _, rfl, rfl, ?_⟩
  simp [item, lexeme, finish, Lexeme.lead, Lexeme.value, Lexeme.source, utf8ByteSize_ofList]

/-- The item behind is a colon where the token behind is. -/
theorem head_isColon {last : Item} (ending : last.kind.isEnding = true) :
    (items place later ++ [last]).head?.any Item.isColon = symbolLeads ':' later := by
  cases later with
  | nil => simp [items, symbolLeads, Item.isColon_of_isEnding ending]
  | cons token tokens =>
      rw [Bool.eq_iff_iff]
      simpa [items, symbolLeads] using isColon_item place tokens token

/-- The item behind is a command where the tokens behind are one. -/
theorem head_isCommand {last : Item} (ending : last.kind.isEnding = true) :
    (items place later ++ [last]).head?.any Item.isCommand = callLeads later := by
  cases later with
  | nil => simp [items, callLeads, Item.isCommand_of_isEnding ending]
  | cons token tokens =>
      have command := isCommand_item place tokens token
      rw [Bool.eq_iff_iff, callLeads_iff]
      constructor
      · intro head
        exact ⟨token, tokens, rfl, command.mp (by simpa [items] using head)⟩
      · rintro ⟨_, _, same, call⟩
        obtain ⟨rfl, rfl⟩ := List.cons.inj same
        simpa [items] using command.mpr call

end Token

/-- What the kind of an item has to do with the items right before and right behind it. The bytes
that the item stands for begin at `start`, if there are any. -/
structure Neighbourhood (text : List Char) (before : List Item) (item : Item)
    (start : Option Nat) (after : List Item) : Prop where
  /-- The variable names are the items that stand in the text by themselves and begin with a
  dollar sign. -/
  variableName : item.IsVariable text ↔
    start = some item.offset ∧ item.value.toList.head? = some '$'
  /-- A variable name declares at the start of a statement in front of a colon, and it is a
  reference anywhere else. -/
  declaration : start = some item.offset → item.value.toList.head? = some '$' →
    item.kind =
      if before.getLast?.all Item.endsStatement && after.head?.any Item.isColon then .declaration
      else .reference
  /-- The colons are the items that stand in the text by themselves and are a colon. -/
  colon : item.isColon = true ↔ start = some item.offset ∧ item.value = ":"
  /-- A colon introduces a command between a declared name and a command, and it is punctuation
  anywhere else. -/
  commandColon : start = some item.offset → item.value = ":" →
    item.kind =
      if before.getLast?.any (·.kind == .declaration) && after.head?.any Item.isCommand then
        .commandColon
      else .punctuation
  /-- A declared name is a variable name and never followed by anything else than a colon. -/
  declared : item.kind = .declaration → item.IsVariable text ∧
    ∃ colon later, after = colon :: later ∧ colon.isColon = true
  /-- A command is followed by a parenthesis right behind its name. -/
  called : item.isCommand = true →
    ∃ parenthesis later, after = parenthesis :: later ∧ parenthesis.kind = .openParen ∧
      parenthesis.offset = item.offset + item.value.utf8ByteSize
  /-- A colon that introduces a command is followed by the command and its parenthesis. -/
  introduced : item.kind = .commandColon → item.isColon = true ∧
    ∃ command parenthesis later, after = command :: parenthesis :: later ∧
      command.isCommand = true ∧ parenthesis.kind = .openParen ∧
        parenthesis.offset = command.offset + command.value.utf8ByteSize

/-- The item of a token fits the items before it and those of the tokens behind it. -/
theorem Token.neighbourhood {text : List Char} {token : Token}
    (stands : token.StandsIn text) (before : List Item) (later : List Token) {last : Item}
    (ending : last.kind.isEnding = true) :
    let item := token.item (Place.initial.behind before) later
    Neighbourhood text before item (some token.offset)
      (items (.following item.kind item.value) later ++ [last]) := by
  intro item
  have colonBehind : (items (.following item.kind item.value) later ++ [last]).head?.any
      Item.isColon = symbolLeads ':' later := head_isColon ending
  have commandBehind : (items (.following item.kind item.value) later ++ [last]).head?.any
      Item.isCommand = callLeads later := head_isCommand ending
  constructor
  · exact (isVariable_item_iff stands).trans (exists_variableName_iff stands)
  · intro bare dollar
    obtain ⟨name, lexeme⟩ := (exists_variableName_iff stands).mpr ⟨bare, dollar⟩
    rw [colonBehind, ← Place.allowsDeclaration_behind]
    simp only [item, Token.item, kind, lexeme]
  · exact (isColon_item _ _ _).trans (lexeme_eq_colon_iff stands)
  · intro bare colon
    have lexeme := (lexeme_eq_colon_iff stands).mpr ⟨bare, colon⟩
    rw [commandBehind, ← Place.allowsCommandColon_behind]
    simp only [item, Token.item, kind, lexeme]
  · intro declaration
    obtain ⟨name, _, leads⟩ := (kind_eq_declaration_iff _ _ _).mp declaration
    obtain ⟨colon, tokens, rfl, lexeme⟩ := exists_of_symbolLeads leads
    exact ⟨(isVariable_item_iff stands).mpr name, _, _, rfl, (isColon_item _ _ _).mpr lexeme⟩
  · intro isCommand
    obtain ⟨word, follows⟩ := (isCommand_item _ _ _).mp isCommand
    obtain ⟨parenthesis, rest, ahead, found⟩ :=
      items_of_parenthesisAt word follows (.following item.kind item.value)
        (Place.initial.behind before)
    rw [ahead]
    exact ⟨parenthesis, rest ++ [last], rfl, found⟩
  · intro introduced
    obtain ⟨lexeme, _, leads⟩ := (kind_eq_commandColon_iff _ _ _).mp introduced
    obtain ⟨token', tokens, rfl, word, follows⟩ := callLeads_iff.mp leads
    refine ⟨(isColon_item _ _ _).mpr lexeme, ?_⟩
    let command := token'.item (.following item.kind item.value) tokens
    obtain ⟨parenthesis, rest, ahead, found⟩ :=
      items_of_parenthesisAt word follows (.following command.kind command.value)
        (.following item.kind item.value)
    refine ⟨command, parenthesis, rest ++ [last], ?_, ?_, found⟩
    · rw [items, ahead]
      rfl
    · exact (isCommand_item _ _ _).mpr ⟨word, follows⟩

/-- The item that ends a stream stands for no bytes and fits every item before it. -/
theorem neighbourhood_of_isEnding {text : List Char} {item : Item}
    (ending : item.kind.isEnding = true) (before : List Item) :
    Neighbourhood text before item none [] := by
  have notDeclaration : item.kind ≠ .declaration := Kind.ne_of_isEnding ending rfl
  have notReference : item.kind ≠ .reference := Kind.ne_of_isEnding ending rfl
  have notCommandColon : item.kind ≠ .commandColon := Kind.ne_of_isEnding ending rfl
  constructor
  · simp [Item.IsVariable, notDeclaration, notReference]
  · intro bare
    cases bare
  · simp [Item.isColon_of_isEnding ending]
  · intro bare
    cases bare
  · intro declaration
    exact absurd declaration notDeclaration
  · intro isCommand
    cases isCommand.symm.trans (Item.isCommand_of_isEnding ending)
  · intro introduced
    exact absurd introduced notCommandColon

/-- An item fits the items on both sides of it, wherever the stream of a text is split. -/
theorem Reading.neighbourhood_of_split {text : String} {passed trivia rest : List Char}
    {tokens : List Token} {cause : Option Cause}
    (reading : Reading text.toList passed trivia rest tokens cause) {before after : List Item}
    {item : Item} (split : (ItemStream.ofText text).items = before ++ item :: after) :
    Neighbourhood text.toList before item (tokens.map Token.offset)[before.length]? after := by
  have ending := Cursor.isEnding_closing
    (.between (leadingMark text.toList ++ passed ++ trivia) rest) cause
  rw [reading.items_eq] at split
  rcases List.eq_nil_or_concat after with rfl | ⟨ahead, last, rfl⟩
  · obtain ⟨rfl, same⟩ := List.append_inj' split rfl
    obtain rfl := (List.cons.inj same).1
    have beyond : (tokens.map Token.offset)[(Token.items .initial tokens).length]? = none := by
      simp
    rw [beyond]
    exact neighbourhood_of_isEnding ending _
  · rw [List.concat_eq_append] at split ⊢
    rw [← List.cons_append, ← List.append_assoc] at split
    obtain ⟨itemsSplit, same⟩ := List.append_inj' split rfl
    obtain rfl := (List.cons.inj same).1
    obtain ⟨front, token, later, rfl, size, rfl, rfl⟩ := Token.items_eq_append itemsSplit
    have stands := reading.standsIn_of_mem (List.mem_append_right front List.mem_cons_self)
    have start : ((front ++ token :: later).map Token.offset)[before.length]? =
        some token.offset := by
      simp [← size]
    rw [start]
    exact Token.neighbourhood stands before later ending

/-- The kinds of the items of a text fit their neighbours. Where the bytes of an item begin is
told by tiles that cover the text. -/
theorem items_fit_neighbours (text : String) :
    ∃ tiles last, (ItemStream.ofText text).items = tiles.map Tile.item ++ [last] ∧
      Coverage text tiles last ∧
        ∀ index : Fin (ItemStream.ofText text).items.length,
          Neighbourhood text.toList ((ItemStream.ofText text).items.take index)
            ((ItemStream.ofText text).items.get index) (tiles.map Tile.left)[index.val]?
            ((ItemStream.ofText text).items.drop (index + 1)) := by
  obtain ⟨passed, trivia, rest, tokens, cause, reading⟩ := exists_reading text.toList
  refine ⟨_, _, ?_, reading.coverage, ?_⟩
  · rw [Token.map_item_tiles]
    exact reading.items_eq
  · intro index
    have split : (ItemStream.ofText text).items =
        (ItemStream.ofText text).items.take index ++
          (ItemStream.ofText text).items.get index ::
            (ItemStream.ofText text).items.drop (index + 1) := by
      rw [List.get_eq_getElem, ← List.drop_eq_getElem_cons, List.take_append_drop]
    have fits := reading.neighbourhood_of_split split
    rwa [List.length_take_of_le index.is_le', ← Token.map_left_tiles .initial] at fits

end StyleLexer
