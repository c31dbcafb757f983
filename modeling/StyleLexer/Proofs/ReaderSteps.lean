import StyleLexer.Proofs.Reader

/-!
# What a reader reads

A reader that stands where a lexeme begins comes to the item of that lexeme, or to the fault that
`Lexeme.read` finds there, and it stops at a boundary of the text. `Reader.read?_reads` says so for
every category, each by its own law, so that no step ever looks at the text beside a boundary.
-/

namespace StyleLexer.Reader

open Offsets Identifier

/-- A reader stands where a cursor does, at the start of a lexeme. -/
structure StandsAt (text : List Char) (reader : Reader) (cursor : Cursor) : Prop where
  stands : cursor.StandsIn text
  start : reader.start = cursor.location.offset
  pos : reader.pos = cursor.location.offset

/-- What reading at a cursor brings a reader to: the item of the lexeme that is read is pending and
the lexeme is passed, or the fault is pending at the cursor and the reader has stopped at some
boundary behind it. -/
inductive ReadsTo (text : List Char) (reader : Reader) (cursor : Cursor) :
    Except Cause (Lexeme × List Char) → Reader → Prop where
  | lexeme {lexeme : Lexeme} {rest : List Char} :
      ReadsTo text reader cursor (.ok (lexeme, rest))
        (holding { reader with pos := reader.pos + byteSize lexeme.source }
          (lexeme.item reader.place cursor.location (cursor.move lexeme.source rest)))
  | fault {cause : Cause} {stop : Nat} (behind : reader.pos ≤ stop)
      (boundary : IsBoundary text stop) :
      ReadsTo text reader cursor (.error cause)
        (halting { reader with pos := stop } (.ofFault { cause, location := cursor.location }))

section Emission

variable {text : List Char} {reader : Reader}

/-- A part of the text that is ahead becomes an item. -/
theorem emitSlice?_eq (kind : Kind) {left : Nat} {value rest : List Char}
    (ahead : Ahead text left (value ++ rest)) :
    emitSlice? text reader kind left (left + byteSize value) =
      some (reader.holding { kind, value := .ofList value, offset := left }) := by
  rw [emitSlice?, slice?_eq_some_iff.mpr ahead.slice]
  rfl

/-- A fault where a cursor stands is located where the cursor is. -/
theorem fail?_eq (cause : Cause) {cursor : Cursor} (stands : cursor.StandsIn text) :
    fail? text reader cause cursor.location.offset =
      some (reader.halting (.ofFault { cause, location := cursor.location })) := by
  obtain ⟨before, after, rfl, rfl⟩ := stands
  have located : Location.locate (before ++ after) (Cursor.between before after).location.offset =
      (Cursor.between before after).location := by
    rw [Cursor.between_offset]
    exact Location.locate_byteSize before after
  rw [fail?, locate?_eq, located]
  rfl

end Emission

namespace StandsAt

variable {text : List Char} {reader : Reader} {cursor : Cursor}

theorem ahead (here : StandsAt text reader cursor) : Ahead text reader.pos cursor.rest := by
  rw [here.pos]
  exact here.stands.ahead

/-- A reader that has passed a lexeme emits it. -/
theorem emit?_reads {lexeme : Lexeme} {rest : List Char} {kind : Kind} {stop : Nat}
    (here : StandsAt text reader cursor) (whole : cursor.rest = lexeme.source ++ rest)
    (bare : lexeme.value = lexeme.source) (noLead : lexeme.lead = 0)
    (isStop : stop = reader.pos + byteSize lexeme.source)
    (isKind : kind = lexeme.kind reader.place (cursor.move lexeme.source rest)) :
    ∃ next, emit? text { reader with pos := stop } kind = some next ∧
      ReadsTo text reader cursor (.ok (lexeme, rest)) next := by
  have ahead : Ahead text reader.start (lexeme.source ++ rest) := by
    rw [here.start, ← whole]
    exact here.stands.ahead
  refine ⟨_, ?_, .lexeme⟩
  rw [emit?, isStop, here.pos, ← here.start, emitSlice?_eq kind ahead]
  simp [Lexeme.item, isKind, bare, noLead, here.start]

/-- A reader that finds a fault has stopped somewhere and reports where it has started. -/
theorem fail?_reads {stop : Nat} (cause : Cause) (here : StandsAt text reader cursor)
    (behind : reader.pos ≤ stop) (boundary : IsBoundary text stop) :
    ∃ next, fail? text { reader with pos := stop } cause reader.start = some next ∧
      ReadsTo text reader cursor (.error cause) next := by
  refine ⟨_, ?_, .fault behind boundary⟩
  rw [here.start]
  exact fail?_eq cause here.stands

/-- Whether a name is declared is found out behind it. -/
theorem declares?_eq {passed rest : List Char} (here : StandsAt text reader cursor)
    (whole : cursor.rest = passed ++ rest) :
    declares? text { reader with pos := reader.pos + byteSize passed } =
      some (reader.place.allowsDeclaration &&
        (cursor.move passed rest).nextCharacter == some ':') := by
  obtain ⟨next, found, colon⟩ := (here.stands.move whole).exists_nextSignificant?
  rw [Cursor.offset_move, ← here.pos] at found
  rw [declares?, found, ← colon]
  cases reader.place.allowsDeclaration with
  | false => rfl
  | true => rfl

/-- Whether a colon introduces a command is found out behind it. -/
theorem introduces?_eq {passed rest : List Char} (here : StandsAt text reader cursor)
    (whole : cursor.rest = passed ++ rest) :
    introduces? text { reader with pos := reader.pos + byteSize passed } =
      some (reader.place.allowsCommandColon && (cursor.move passed rest).commandFollows) := by
  have found := (here.stands.move whole).commandFollows?_eq
  rw [Cursor.offset_move, ← here.pos] at found
  rw [introduces?, found]
  cases reader.place.allowsCommandColon with
  | false => rfl
  | true => rfl

end StandsAt

section Names

variable {text later : List Char} {pos : Nat} {c : Char}

/-- A name is passed behind the character in front of it. -/
theorem passWhile?_name (ahead : Ahead text pos (c :: later)) :
    passWhile? text isPart (pos + c.utf8Size) = some (pos + byteSize (c :: name later)) := by
  rw [ahead.cons.passWhile?_eq isPart, byteSize_cons, Nat.add_assoc]
  rfl

/-- Behind a name lies what does not belong to it. -/
theorem ahead_behindName (ahead : Ahead text pos (c :: later)) :
    Ahead text (pos + byteSize (c :: name later)) (behindName later) := by
  refine Ahead.append ?_
  rwa [List.cons_append, name_append_behindName]

end Names

section Categories

variable {text later : List Char} {reader : Reader} {cursor : Cursor} {first : Char}

/-- A variable name is read, or its sign is stray. -/
theorem readVariableName?_reads (here : StandsAt text reader cursor)
    (whole : cursor.rest = '$' :: later) :
    ∃ next, readVariableName? text reader = some next ∧
      ReadsTo text reader cursor
        (if (name later).isEmpty then .error (.strayCharacter '$')
        else .ok (.variableName (name later), behindName later)) next := by
  have ahead := here.ahead
  rw [whole] at ahead
  rw [readVariableName?, ahead.bump?_cons]
  simp only [Option.bind_eq_bind, Option.bind_some, passWhile?_name ahead]
  by_cases empty : name later = []
  · simp only [empty, byteSize_cons, byteSize_nil, Nat.add_zero, if_true, List.isEmpty_nil]
    exact here.fail?_reads _ (Nat.le_add_right _ _) ahead.cons.isBoundary
  · have passed := mt byteSize_eq_zero_iff.mp empty
    have split : cursor.rest = '$' :: name later ++ behindName later := by
      rw [whole, List.cons_append, name_append_behindName]
    rw [if_neg (by rw [byteSize_cons]; omega), if_neg (by simpa using empty),
      here.declares?_eq split]
    exact here.emit?_reads split rfl rfl rfl rfl

/-- An interpolation is read, or no brace closes it. -/
theorem readInterpolation?_reads (here : StandsAt text reader cursor)
    (whole : cursor.rest = '#' :: '\x7b' :: later) :
    ∃ next, readInterpolation? text reader = some next ∧
      ReadsTo text reader cursor
        (match Interpolation.split? 0 later with
        | some (body, rest) => .ok (.interpolation body, rest)
        | none => .error .unclosedInterpolation) next := by
  have ahead := here.ahead
  rw [whole] at ahead
  have inside := ahead.cons.cons
  rw [readInterpolation?, ahead.bump?_cons]
  simp only [Option.bind_eq_bind, Option.bind_some, ahead.cons.bump?_cons, inside.passBody?_eq]
  cases split : Interpolation.split? 0 later with
  | none =>
      have atEnd : Ahead text (byteSize text) [] := ⟨text, by simp, rfl⟩
      have behind : reader.pos ≤ byteSize text := ahead.isBoundary.le_byteSize
      exact here.fail?_reads _ behind atEnd.isBoundary
  | some parts =>
      obtain ⟨body, rest⟩ := parts
      have parts := Interpolation.append_of_split? split
      rw [← parts] at inside
      have sizes : '#'.utf8Size = 1 ∧ '\x7b'.utf8Size = 1 ∧ '\x7d'.utf8Size = 1 := ⟨rfl, rfl, rfl⟩
      simp only [if_true, emitSlice?_eq .reference inside, Option.bind_some,
        inside.append.bump?_cons]
      refine ⟨_, ?_, .lexeme⟩
      simp [holding, Lexeme.item, Lexeme.kind, Lexeme.value, Lexeme.lead, Lexeme.source, sizes,
        here.pos]
      omega

/-- A quoted literal is read, or no quote closes it. -/
theorem readQuoted?_reads (here : StandsAt text reader cursor)
    (whole : cursor.rest = first :: later) (opens : Quoted.isQuote first = true) :
    ∃ next, readQuoted? text reader = some next ∧
      ReadsTo text reader cursor
        (match Quoted.split? first later with
        | some (body, rest) => .ok (.quoted first body, rest)
        | none => .error .unclosedQuote) next := by
  have ahead := here.ahead
  rw [whole] at ahead
  have body : reader.start + 1 = reader.pos + first.utf8Size := by
    rw [here.start, here.pos, Quoted.utf8Size_of_isQuote opens]
  rw [readQuoted?]
  simp only [Option.bind_eq_bind, ahead.passQuoted?_eq, Option.bind_some, body]
  cases split : Quoted.split? first later with
  | none =>
      have atEnd : Ahead text (byteSize text) [] := ⟨text, by simp, rfl⟩
      exact here.fail?_reads _ ahead.isBoundary.le_byteSize atEnd.isBoundary
  | some parts =>
      obtain ⟨body, rest⟩ := parts
      have inside := ahead.cons
      rw [← Quoted.append_of_split? split] at inside
      have closing : reader.pos + byteSize (first :: body) =
          reader.pos + first.utf8Size + byteSize body := (Nat.add_assoc _ _ _).symm
      simp only [closing, slice?_eq_some_iff.mpr inside.slice, Option.bind_some, emitSlice?_eq _ inside]
      refine ⟨_, ?_, .lexeme⟩
      have inner : Lexeme.lead (.quoted first body) = first.utf8Size :=
        (Quoted.utf8Size_of_isQuote opens).symm
      rw [here.pos, Lexeme.item, inner]
      rfl

/-- A number is read. -/
theorem readNumber?_reads (here : StandsAt text reader cursor)
    (whole : cursor.rest = first :: later) (digit : first.isDigit = true) :
    ∃ next, readNumber? text reader = some next ∧
      ReadsTo text reader cursor
        (.ok (.number (first :: later.takeWhile Char.isDigit), later.dropWhile Char.isDigit))
        next := by
  have ahead := here.ahead
  have split : cursor.rest =
      first :: later.takeWhile Char.isDigit ++ later.dropWhile Char.isDigit := by
    rw [whole, List.cons_append, List.takeWhile_append_dropWhile]
  have stop := ahead.passWhile?_eq Char.isDigit
  rw [whole, List.takeWhile_cons_of_pos digit] at stop
  rw [readNumber?, stop]
  exact here.emit?_reads split rfl rfl rfl rfl

/-- A directive is read, or its sign is stray. -/
theorem readDirective?_reads (here : StandsAt text reader cursor)
    (whole : cursor.rest = '@' :: later) :
    ∃ next, readDirective? text reader = some next ∧
      ReadsTo text reader cursor
        (if (name later).isEmpty then .error (.strayCharacter '@')
        else .ok (.directive (name later), behindName later)) next := by
  have ahead := here.ahead
  rw [whole] at ahead
  have behindSign := ahead.cons
  rw [← name_append_behindName later] at behindSign
  have slice : slice? text (reader.pos + '@'.utf8Size) (reader.pos + byteSize ('@' :: name later)) =
      some (name later) := by
    rw [byteSize_cons, ← Nat.add_assoc]
    exact slice?_eq_some_iff.mpr behindSign.slice
  rw [readDirective?, ahead.bump?_cons]
  simp only [Option.bind_eq_bind, Option.bind_some, passWhile?_name ahead, slice]
  split
  · exact here.fail?_reads _ (Nat.le_add_right _ _) (ahead_behindName ahead).isBoundary
  · have split : cursor.rest = '@' :: name later ++ behindName later := by
      rw [whole, List.cons_append, name_append_behindName]
    exact here.emit?_reads split rfl rfl rfl rfl

/-- A bare word is read. -/
theorem readWord?_reads (here : StandsAt text reader cursor)
    (whole : cursor.rest = first :: later) (opens : isStart first = true) :
    ∃ next, readWord? text reader = some next ∧
      ReadsTo text reader cursor (.ok (.word (first :: name later), behindName later)) next := by
  have ahead := here.ahead
  have split : cursor.rest = first :: name later ++ behindName later := by
    rw [whole, List.cons_append, name_append_behindName]
  have stop : passWhile? text isPart reader.pos =
      some (reader.pos + byteSize (first :: name later)) := by
    rw [ahead.passWhile?_eq isPart, whole, List.takeWhile_cons_of_pos (isPart_of_isStart opens)]
    rfl
  rw [split] at ahead
  have slice : slice? text reader.start (reader.pos + byteSize (first :: name later)) =
      some (first :: name later) := by
    rw [here.start, ← here.pos]
    exact slice?_eq_some_iff.mpr ahead.slice
  rw [readWord?, stop]
  simp only [Option.bind_eq_bind, Option.bind_some, ahead.append.peek?_eq, slice]
  split
  · rename_i next
    exact here.emit?_reads split rfl rfl rfl (if_pos next).symm
  · rename_i next
    exact here.emit?_reads split rfl rfl rfl (if_neg next).symm

/-- A mark that has been passed is emitted, the hash of a name apart. -/
theorem emit?_mark {kind : Kind} (here : StandsAt text reader cursor)
    (whole : cursor.rest = first :: later)
    (noName : ¬ (first = '#' ∧ (name later).isEmpty = false))
    (mark : Lexeme.isPunctuation first = true)
    (isKind : kind = Lexeme.symbolKind reader.place (cursor.move [first] later) first) :
    ∃ next, emit? text { reader with pos := reader.pos + first.utf8Size } kind = some next ∧
      ReadsTo text reader cursor
        (if first = '#' ∧ (name later).isEmpty = false then
          .ok (.hashName (name later), behindName later)
        else if Lexeme.isPunctuation first then .ok (.symbol first, later)
        else .error (.strayCharacter first)) next := by
  rw [if_neg noName, if_pos mark]
  exact here.emit?_reads whole rfl rfl (by rw [Lexeme.source, byteSize_cons]; rfl) isKind

/-- A mark or a hash with a name is read, or the character is stray. -/
theorem readSymbol?_reads (here : StandsAt text reader cursor)
    (whole : cursor.rest = first :: later) :
    ∃ next, readSymbol? text reader = some next ∧
      ReadsTo text reader cursor
        (if first = '#' ∧ (name later).isEmpty = false then
          .ok (.hashName (name later), behindName later)
        else if Lexeme.isPunctuation first then .ok (.symbol first, later)
        else .error (.strayCharacter first)) next := by
  have ahead := here.ahead
  rw [whole] at ahead
  rw [readSymbol?, ahead.bump?_cons]
  simp only [Option.bind_eq_bind, Option.bind_some]
  split
  · exact emit?_mark here whole (by simp) rfl rfl
  · exact emit?_mark here whole (by simp) rfl rfl
  · exact emit?_mark here whole (by simp) rfl rfl
  · exact emit?_mark here whole (by simp) rfl rfl
  · exact emit?_mark here whole (by simp) rfl rfl
  · have split : cursor.rest = [':'] ++ later := whole
    have introduces := here.introduces?_eq split
    rw [show byteSize [':'] = ':'.utf8Size from rfl] at introduces
    rw [introduces, Option.bind_some]
    exact emit?_mark here whole (by simp) rfl rfl
  · have size : subtract? (reader.pos + byteSize ('#' :: name later)) reader.start =
        some (byteSize ('#' :: name later)) := by
      rw [subtract?_eq_some_iff, here.start, here.pos, Nat.add_comm]
    rw [passWhile?_name ahead, Option.bind_some, size, Option.bind_some]
    by_cases empty : name later = []
    · have single : ¬ 1 < byteSize ('#' :: name later) := by
        rw [empty]
        decide
      have hash : byteSize ('#' :: name later) = '#'.utf8Size := by rw [empty]; rfl
      rw [if_neg single, hash]
      exact emit?_mark here whole (by simp [empty]) rfl rfl
    · have passed := mt byteSize_eq_zero_iff.mp empty
      have several : 1 < byteSize ('#' :: name later) := by
        rw [byteSize_cons, show '#'.utf8Size = 1 from rfl]
        omega
      have split : cursor.rest = '#' :: name later ++ behindName later := by
        rw [whole, List.cons_append, name_append_behindName]
      rw [if_pos several, if_pos ⟨rfl, by simpa using empty⟩]
      exact here.emit?_reads split rfl rfl rfl rfl
  · rename_i notMinus notOpen notClose notOpenBracket notCloseBracket notColon notHash
    have noName : ¬ (first = '#' ∧ (name later).isEmpty = false) := fun hash => notHash hash.1
    by_cases mark : Lexeme.isPunctuation first = true
    · rw [if_pos mark]
      exact emit?_mark here whole noName mark (by simp [Lexeme.symbolKind])
    · rw [if_neg mark, if_neg noName, if_neg mark]
      exact here.fail?_reads _ (Nat.le_add_right _ _) ahead.cons.isBoundary

/-- Reading a lexeme of its category comes to what is there. -/
theorem read?_reads (here : StandsAt text reader cursor) (whole : cursor.rest = first :: later) :
    ∃ next, read? text (Category.opening first later) reader = some next ∧
      ReadsTo text reader cursor (Lexeme.read first later) next := by
  have opens := Category.opens_opening first later
  unfold Lexeme.read
  cases category : Category.opening first later with
  | variableName =>
      rw [category] at opens
      obtain rfl := opens
      exact readVariableName?_reads here whole
  | interpolation =>
      rw [category] at opens
      obtain ⟨rfl, brace⟩ := opens
      obtain ⟨inside, rfl⟩ := List.head?_eq_some_iff.mp brace
      exact readInterpolation?_reads here whole
  | quoted =>
      rw [category] at opens
      exact readQuoted?_reads here whole opens
  | number =>
      rw [category] at opens
      exact readNumber?_reads here whole opens
  | directive =>
      rw [category] at opens
      obtain rfl := opens
      exact readDirective?_reads here whole
  | word =>
      rw [category] at opens
      exact readWord?_reads here whole opens
  | symbol => exact readSymbol?_reads here whole

end Categories

end StyleLexer.Reader
