import StyleLexer.Proofs.Origins

/-!
# What the place changes

The place in a statement decides two kinds and nothing else: it never moves an item, and no fault
depends on it. `items_same_but_for_place` compares what one scanner hands out from any two places.
Their difference ends with the second item, because a name is declared only where a colon comes
next, and behind a colon every place is the same.
-/

namespace StyleLexer

/-- Two kinds, the one and the other. -/
def Kind.ArePair (one other kind kind' : Kind) : Prop :=
  kind = one ∧ kind' = other ∨ kind = other ∧ kind' = one

/-- Two kinds, the one of a declared name and that of a name in use. -/
abbrev Kind.AreNames : Kind → Kind → Prop :=
  ArePair .declaration .reference

/-- Two kinds, the one of a colon in front of a command and that of any other colon. -/
abbrev Kind.AreColons : Kind → Kind → Prop :=
  ArePair .commandColon .punctuation

/-- Conditions that differ give both kinds of a pair. -/
theorem Kind.arePair_of_ne {one other : Kind} {condition condition' : Bool}
    (differ : condition ≠ condition') :
    ArePair one other (if condition then one else other) (if condition' then one else other) := by
  cases condition with
  | true =>
      obtain rfl : condition' = false := by simpa using differ.symm
      exact .inl ⟨rfl, rfl⟩
  | false =>
      obtain rfl : condition' = true := by simpa using differ.symm
      exact .inr ⟨rfl, rfl⟩

/-- Two lists of items that are the same but for the kinds of a colon at their beginning, or of a
name at their beginning and of the item behind it. -/
inductive SameButForKinds : List Item → List Item → Prop where
  | same (items : List Item) : SameButForKinds items items
  | colon {kind kind' : Kind} (colons : kind.AreColons kind') (item : Item) (later : List Item) :
      SameButForKinds ({ item with kind } :: later) ({ item with kind := kind' } :: later)
  | name {kind kind' next next' : Kind} (names : kind.AreNames kind')
      (colons : next = next' ∨ next.AreColons next') (first second : Item) (later : List Item) :
      SameButForKinds ({ first with kind } :: { second with kind := next } :: later)
        ({ first with kind := kind' } :: { second with kind := next' } :: later)

namespace SameButForKinds

/-- More of the same behind both lists makes no difference. -/
theorem append {items items' : List Item} (same : SameButForKinds items items')
    (tail : List Item) : SameButForKinds (items ++ tail) (items' ++ tail) := by
  cases same with
  | same items => exact .same _
  | colon colons item later => exact .colon colons item (later ++ tail)
  | name names colons first second later => exact .name names colons first second (later ++ tail)

end SameButForKinds

namespace Token

variable (place place' : Place) (later : List Token)

theorem kind_colon (offset : Nat) :
    kind place later ⟨.symbol ':', offset⟩ =
      if place.allowsCommandColon && callLeads later then .commandColon else .punctuation :=
  rfl

/-- The kind of a colon depends on the place only as far as a colon can. -/
theorem kind_colon_cases (offset : Nat) :
    kind place later ⟨.symbol ':', offset⟩ = kind place' later ⟨.symbol ':', offset⟩ ∨
      (kind place later ⟨.symbol ':', offset⟩).AreColons
        (kind place' later ⟨.symbol ':', offset⟩) := by
  by_cases same : (place.allowsCommandColon && callLeads later) =
      (place'.allowsCommandColon && callLeads later)
  · exact .inl (by simp only [kind_colon, same])
  · exact .inr (Kind.arePair_of_ne same)

/-- Behind a colon every place is the same. -/
theorem items_colon (offset : Nat) :
    items place (⟨.symbol ':', offset⟩ :: later) =
      item place later ⟨.symbol ':', offset⟩ :: items .expression later := by
  have behind : Place.following (kind place later ⟨.symbol ':', offset⟩) ":" = .expression := by
    rw [kind_colon]
    split <;> rfl
  exact congrArg (item place later ⟨.symbol ':', offset⟩ :: items · later) behind

/-- The kind of a token does not depend on the place, unless the token is a name in front of a
colon, or a colon. -/
theorem kind_cases_of_places (token : Token) :
    token.kind place later = token.kind place' later ∨
    symbolLeads ':' later = true ∧ (token.kind place later).AreNames (token.kind place' later) ∨
    token.lexeme = .symbol ':' := by
  unfold kind
  split
  · cases leads : symbolLeads ':' later with
    | false => simp
    | true =>
        by_cases same : place.allowsDeclaration = place'.allowsDeclaration
        · exact .inl (by rw [same])
        · refine .inr (.inl ⟨rfl, ?_⟩)
          simpa using Kind.arePair_of_ne same
  · exact .inl rfl
  · rename_i colon
    exact .inr (.inr colon)
  · exact .inl rfl

/-- Tokens have the same items from any two places, but for the kinds of the first two. -/
theorem sameButForKinds_items (tokens : List Token) :
    SameButForKinds (items place tokens) (items place' tokens) := by
  cases tokens with
  | nil => exact .same _
  | cons token later =>
      rcases kind_cases_of_places place place' later token with same | ⟨leads, names⟩ | colon
      · simp only [items, item, same]
        exact .same _
      · -- The next token is a colon, so what stands behind it does not see the place any more.
        cases later with
        | nil => cases leads
        | cons next later =>
            obtain ⟨lexeme, offset⟩ := next
            obtain rfl : lexeme = .symbol ':' := by simpa [symbolLeads] using leads
            rw [items, items_colon, items, items_colon]
            exact .name names (kind_colon_cases _ _ later offset) (token.item place [])
              (item place later ⟨.symbol ':', offset⟩) _
      · obtain ⟨lexeme, offset⟩ := token
        obtain rfl : lexeme = .symbol ':' := colon
        rw [items_colon, items_colon]
        rcases kind_colon_cases place place' later offset with same | colons
        · simp only [item, same]
          exact .same _
        · exact .colon colons (item place later ⟨.symbol ':', offset⟩) _

end Token

namespace ItemStream

/-- An item that ends the stream is the only one. -/
theorem items_of_ending {scanner after : Scanner} {item : Item}
    (found : scanner.next = (item, after)) (ending : item.kind.isEnding = true) :
    items { scanner } = [item] := by
  rw [items_of_next found, if_pos ending]

/-- Wherever a scanner that reads is put in a statement, it hands out the items of the same tokens
and the same last item. -/
theorem exists_tokens_of_reading (cursor : Cursor) :
    ∃ tokens last, ∀ place,
      items { scanner := { cursor, place, phase := .reading } } =
        Token.items place tokens ++ [last] := by
  cases whole : cursor.rest with
  | nil =>
      refine ⟨[], .ofEnd cursor.toEnd.location, ?_⟩
      intro place
      have silent : Scanner.step { cursor, place, phase := .reading } =
          .silent { cursor, place, phase := .finished } := by
        simp [Scanner.step, Scanner.readLexeme, whole]
      have found := (Scanner.next_of_silent silent).trans (Scanner.next_of_yield rfl)
      exact items_of_ending found rfl
  | cons first text =>
      cases read : Lexeme.read first text with
      | error cause =>
          refine ⟨[], .ofFault ⟨cause, cursor.location⟩, ?_⟩
          intro place
          have yields : Scanner.step { cursor, place, phase := .reading } =
              Scanner.stop { cursor, place, phase := .reading } cause :=
            Scanner.step_of_read_error rfl whole read
          exact items_of_ending (Scanner.next_of_yield yields) rfl
      | ok found =>
          obtain ⟨lexeme, rest⟩ := found
          obtain ⟨tokens, last, cause, passage, stops⟩ :=
            exists_passage (cursor.move lexeme.source rest)
          refine ⟨⟨lexeme, cursor.location.offset⟩ :: tokens, (Trivia.skip last).closing cause, ?_⟩
          intro place
          have yields : Scanner.step { cursor, place, phase := .reading } =
              Scanner.emit { cursor, place, phase := .reading } lexeme rest :=
            Scanner.step_of_read_ok rfl whole read
          have isItem := Lexeme.item_eq passage stops place lexeme cursor.location
            (cursor.offset_move _ _).symm
          have goesOn := Lexeme.isEnding_kind place (cursor.move lexeme.source rest) lexeme
          rw [items_of_next (Scanner.next_of_yield yields), if_neg (by simp [Lexeme.item, goesOn]),
            items_of_passage passage stops, isItem]
          rfl

/-- Wherever a scanner is put in a statement, it hands out the items of the same tokens and the same
last item. -/
theorem exists_tokens (scanner : Scanner) :
    ∃ tokens last, ∀ place,
      items { scanner := { scanner with place } } = Token.items place tokens ++ [last] := by
  obtain ⟨cursor, _, phase⟩ := scanner
  cases phase with
  | seeking =>
      obtain ⟨tokens, last, cause, passage, stops⟩ := exists_passage cursor
      exact ⟨tokens, _, items_of_passage passage stops⟩
  | reading => exact exists_tokens_of_reading cursor
  | finished =>
      refine ⟨[], .ofEnd cursor.toEnd.location, ?_⟩
      intro place
      exact items_of_ending (Scanner.next_of_yield rfl) rfl

end ItemStream

/-- Two lists of items that differ in the kinds of the first two at most: in that of a name and that
of a colon, and where both differ, the colon stands behind the name. -/
structure SameButForPlace (items items' : List Item) : Prop where
  length : items.length = items'.length
  values : items.map Item.value = items'.map Item.value
  offsets : items.map Item.offset = items'.map Item.offset
  faults : items.map Item.fault = items'.map Item.fault
  later : items.drop 2 = items'.drop 2
  first {first first' : Item} {later later' : List Item} (isFirst : items = first :: later)
    (isFirst' : items' = first' :: later') :
    first.kind = first'.kind ∨ first.kind.AreNames first'.kind ∨ first.kind.AreColons first'.kind
  second {first first' second second' : Item} {later later' : List Item}
    (isSecond : items = first :: second :: later)
    (isSecond' : items' = first' :: second' :: later') :
    second.kind = second'.kind ∨
      second.kind.AreColons second'.kind ∧ first.kind.AreNames first'.kind

/-- Lists that are the same but for such kinds are the same in every other respect. -/
theorem SameButForKinds.sameButForPlace {items items' : List Item}
    (same : SameButForKinds items items') : SameButForPlace items items' := by
  cases same with
  | same =>
      refine ⟨rfl, rfl, rfl, rfl, rfl, ?_, ?_⟩
      · rintro first first' later later' rfl isFirst'
        cases isFirst'
        exact .inl rfl
      · rintro first first' second second' later later' rfl isSecond'
        cases isSecond'
        exact .inl rfl
  | colon colons item later =>
      refine ⟨rfl, rfl, rfl, rfl, rfl, ?_, ?_⟩
      · intro first first' later later' isFirst isFirst'
        cases isFirst
        cases isFirst'
        exact .inr (.inr colons)
      · intro first first' second second' later later' isSecond isSecond'
        cases isSecond
        cases isSecond'
        exact .inl rfl
  | name names colons one other later =>
      refine ⟨rfl, rfl, rfl, rfl, rfl, ?_, ?_⟩
      · intro first first' later later' isFirst isFirst'
        cases isFirst
        cases isFirst'
        exact .inr (.inl names)
      · intro first first' second second' later later' isSecond isSecond'
        cases isSecond
        cases isSecond'
        exact colons.imp_right (⟨·, names⟩)

/-- The place in a statement moves no item and causes no fault, and it decides the kinds of the
first two items at most. -/
theorem items_same_but_for_place (scanner : Scanner) (place place' : Place) :
    SameButForPlace (ItemStream.items { scanner := { scanner with place } })
      (ItemStream.items { scanner := { scanner with place := place' } }) := by
  obtain ⟨tokens, last, isItems⟩ := ItemStream.exists_tokens scanner
  rw [isItems, isItems]
  exact ((Token.sameButForKinds_items place place' tokens).append [last]).sameButForPlace

/-- In front of a command the place decides both kinds. -/
example :
    ((ItemStream.items { scanner := { cursor := .ofText "$a: b()".toList } }).map Item.kind =
      [.declaration, .commandColon, .command, .openParen, .closeParen, .endOfText]) ∧
    ((ItemStream.items { scanner := { cursor := .ofText "$a: b()".toList,
                                      place := .expression } }).map Item.kind =
      [.reference, .punctuation, .command, .openParen, .closeParen, .endOfText]) := by
  decide +kernel

end StyleLexer
