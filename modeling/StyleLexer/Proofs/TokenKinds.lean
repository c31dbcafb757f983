import StyleLexer.Items
import StyleLexer.ItemStream
import StyleLexer.Proofs.Passages

/-!
# Kinds from tokens

The scanner decides a kind by looking ahead in the text. `Token.kind` decides it from the
tokens that follow instead, and `Token.kind_eq` says that the two agree: looking ahead
never sees anything else than what is read next. So the items of a text are a function of
its tokens alone, `Token.items`, which is what `ItemStream.items_of_passage` and
`Scanner.items_of_passage` say of the two ways to ask for them.
-/

namespace StyleLexer

namespace Token

/-- The first of the tokens is this symbol. -/
def symbolLeads (c : Char) : List Token → Bool
  | [] => false
  | token :: _ => token.lexeme == .symbol c

/-- The first of the tokens is an opening parenthesis at this offset. -/
def parenthesisAt (offset : Nat) : List Token → Bool
  | [] => false
  | token :: _ => token.lexeme == .symbol '(' && token.offset == offset

/-- The first of the tokens is a word with an opening parenthesis right behind it. -/
def callLeads : List Token → Bool
  | ⟨.word text, offset⟩ :: later => parenthesisAt (offset + byteSize text) later
  | _ => false

/-- The kind of a token at `place` in front of the tokens `later`. Tokens that are no
variable name, word or colon are of one kind everywhere. -/
def kind (place : Place) (later : List Token) (token : Token) : Kind :=
  match token.lexeme with
  | .variableName _ =>
      if place.allowsDeclaration && symbolLeads ':' later then .declaration else .reference
  | .word text =>
      if parenthesisAt token.finish later then
        if text = "sprite".toList then .spriteCommand else .command
      else .text
  | .symbol ':' =>
      if place.allowsCommandColon && callLeads later then .commandColon else .punctuation
  | lexeme => lexeme.kind .expression (.between [] [])

/-- The item of a token at `place` in front of the tokens `later`. -/
def item (place : Place) (later : List Token) (token : Token) : Item where
  kind := token.kind place later
  value := String.ofList token.lexeme.value
  offset := token.offset + token.lexeme.lead

/-- The items of tokens that follow each other from `place` on. -/
def items : Place → List Token → List Item
  | _, [] => []
  | place, token :: later =>
      let item := token.item place later
      item :: items (.following item.kind item.value) later

end Token

/-- A text of no bytes is empty. -/
theorem byteSize_eq_zero_iff {text : List Char} : byteSize text = 0 ↔ text = [] := by
  cases text with
  | nil => simp
  | cons c text =>
      have positive := c.utf8Size_pos
      simp only [byteSize_cons, reduceCtorEq, iff_false]
      omega

section Lookahead

variable {cursor last : Cursor} {tokens : List Token} {cause : Option Cause}

/-- A symbol that always stands alone comes next exactly when it is the next token. -/
theorem head_skip_iff (passage : Passage cursor tokens last)
    (stops : (Trivia.skip last).finding = .stop cause) {c : Char}
    (alone : Lexeme.standsAlone c = true) (notSlash : c ≠ '/') :
    (Trivia.skip cursor).rest.head? = some c ↔ Token.symbolLeads c tokens = true := by
  constructor
  · intro head
    obtain ⟨rest, whole⟩ := List.head?_eq_some_iff.mp head
    have found : (Trivia.skip cursor).finding = .lexeme (.symbol c) rest := by
      rw [Cursor.finding_eq_lexeme_iff]
      refine ⟨?_, whole, Lexeme.fits_of_standsAlone alone rest⟩
      rw [whole]
      unfold Trivia.opensBlockComment
      split
      · rename_i mark
        exact absurd (List.cons.inj mark).1 notSlash
      · rfl
    cases passage with
    | here => cases stops.symm.trans found
    | more found' _ =>
        cases found.symm.trans found'
        simp [Token.symbolLeads]
  · intro leads
    cases passage with
    | here => cases leads
    | more found _ =>
        obtain ⟨_, whole, _⟩ := Cursor.finding_eq_lexeme_iff.mp found
        simp only [Token.symbolLeads, beq_iff_eq] at leads
        rw [whole, leads]
        rfl

/-- Skipping moves by no byte only where it does not move. -/
theorem skip_eq_of_offset
    (same : (Trivia.skip cursor).location.offset = cursor.location.offset) :
    Trivia.skip cursor = cursor := by
  obtain ⟨trivia, _, whole, skipped⟩ := Trivia.exists_run_skip cursor
  rw [skipped] at same
  simp only [Cursor.move, Location.past_offset, Nat.add_eq_left] at same
  obtain rfl := byteSize_eq_zero_iff.mp same
  rw [skipped, ← List.nil_append (Trivia.skip cursor).rest, ← whole]
  rfl

/-- An opening parenthesis stands at the cursor exactly when it is the next token and
begins there. -/
theorem head_eq_parenthesis_iff (passage : Passage cursor tokens last)
    (stops : (Trivia.skip last).finding = .stop cause) :
    cursor.rest.head? = some '(' ↔
      Token.parenthesisAt cursor.location.offset tokens = true := by
  have next := head_skip_iff passage stops (c := '(') rfl (by decide)
  constructor
  · intro head
    obtain ⟨rest, whole⟩ := List.head?_eq_some_iff.mp head
    have stays : Trivia.skip cursor = cursor := by
      apply Trivia.skip_of_first?_eq_none
      rw [whole]
      rfl
    rw [stays] at next
    have leads := next.mp head
    cases passage with
    | here => cases leads
    | more found later =>
        simp only [Token.symbolLeads, beq_iff_eq] at leads
        simp [Token.parenthesisAt, leads, stays]
  · intro here
    cases passage with
    | here => cases here
    | more found later =>
        simp only [Token.parenthesisAt, Bool.and_eq_true, beq_iff_eq] at here
        obtain ⟨leads, same⟩ := here
        have head := next.mpr (by simp [Token.symbolLeads, leads])
        rwa [skip_eq_of_offset same] at head

/-- A character that opens an identifier opens a word. -/
theorem finding_of_isStart {first : Char} {text : List Char} (whole : cursor.rest = first :: text)
    (start : Identifier.isStart first = true) :
    cursor.finding =
      .lexeme (.word (first :: Identifier.name text)) (Identifier.behindName text) := by
  have category : Category.opening first text = .word := Category.opening_eq_of_opens start
  have noComment : Trivia.opensBlockComment cursor.rest = false := by
    rw [whole]
    unfold Trivia.opensBlockComment
    split
    · rename_i mark
      rw [(List.cons.inj mark).1] at start
      cases start
    · rfl
  unfold Cursor.finding
  rw [if_neg (by simp [noComment]), whole]
  simp [Lexeme.read, category]

/-- A command call stands behind the trivia exactly when the next tokens are one. -/
theorem commandFollows_eq (passage : Passage cursor tokens last)
    (stops : (Trivia.skip last).finding = .stop cause) :
    cursor.commandFollows = Token.callLeads tokens := by
  unfold Cursor.commandFollows
  cases passage with
  | here =>
      split
      · rfl
      · rename_i first text whole
        have noStart : Identifier.isStart first = false := by
          apply Bool.eq_false_iff.mpr
          intro start
          cases stops.symm.trans (finding_of_isStart whole start)
        simp [noStart, Token.callLeads]
  | @more _ _ lexeme rest tokens found later =>
      obtain ⟨_, source, fits⟩ := Cursor.finding_eq_lexeme_iff.mp found
      split
      · rename_i empty
        rw [empty] at source
        exact absurd (List.append_eq_nil_iff.mp source.symm).1 (Lexeme.source_ne_nil fits)
      · rename_i first text whole
        cases start : Identifier.isStart first with
        | true =>
            cases found.symm.trans (finding_of_isStart whole start)
            have parenthesis := head_eq_parenthesis_iff later stops
            rw [Bool.true_and, Bool.eq_iff_iff, beq_iff_eq]
            simpa [Token.callLeads, Cursor.move, Lexeme.source, Nat.add_assoc] using parenthesis
        | false =>
            rw [Bool.false_and]
            cases lexeme with
            | word word' =>
                obtain ⟨⟨nonempty, _⟩, opens, _⟩ := fits
                cases word' with
                | nil => exact absurd rfl nonempty
                | cons c word' =>
                    have same : c = first := (List.cons.inj (source.symm.trans whole)).1
                    cases start.symm.trans (same ▸ opens c rfl)
            | _ => rfl

end Lookahead

/-- A symbol that is no colon is of one kind everywhere. -/
theorem Lexeme.symbolKind_of_ne_colon {place place' : Place} {behind behind' : Cursor}
    {c : Char} (notColon : c ≠ ':') :
    symbolKind place behind c = symbolKind place' behind' c := by
  unfold symbolKind
  split <;> simp_all

/-- The kind of a symbol that is no colon depends on the symbol alone. -/
theorem Token.kind_symbol_of_ne_colon {c : Char} (notColon : c ≠ ':') (place : Place)
    (later : List Token) (offset : Nat) :
    kind place later ⟨.symbol c, offset⟩ =
      Lexeme.symbolKind .expression (.between [] []) c := by
  unfold kind
  split <;> simp_all [Lexeme.kind]

/-- The kind that looking ahead finds is the kind that the next tokens give. -/
theorem Token.kind_eq {behind last : Cursor} {tokens : List Token} {cause : Option Cause}
    (passage : Passage behind tokens last) (stops : (Trivia.skip last).finding = .stop cause)
    (place : Place) (token : Token) (finish : token.finish = behind.location.offset) :
    token.lexeme.kind place behind = token.kind place tokens := by
  obtain ⟨lexeme, offset⟩ := token
  have colon : (behind.nextCharacter == some ':') = symbolLeads ':' tokens := by
    rw [Bool.eq_iff_iff, beq_iff_eq]
    exact head_skip_iff passage stops rfl (by decide)
  have call := commandFollows_eq passage stops
  have parenthesis := head_eq_parenthesis_iff passage stops
  rw [← finish] at parenthesis
  cases lexeme with
  | variableName name => simp only [Lexeme.kind, kind, colon]
  | word text => simp only [Lexeme.kind, kind, parenthesis]
  | symbol c =>
      by_cases isColon : c = ':'
      · subst isColon
        simp only [Lexeme.kind, Lexeme.symbolKind, kind, call]
      · rw [kind_symbol_of_ne_colon isColon]
        exact Lexeme.symbolKind_of_ne_colon isColon
  | _ => rfl

/-- A kind that ends a stream is none of those that do not. -/
theorem Kind.ne_of_isEnding {kind other : Kind} (ending : kind.isEnding = true)
    (goesOn : other.isEnding = false) : kind ≠ other := by
  rintro rfl
  cases ending.symm.trans goesOn

/-- An item that ends a stream at a cursor is of an ending kind. -/
theorem Cursor.isEnding_closing (cursor : Cursor) (cause : Option Cause) :
    (cursor.closing cause).kind.isEnding = true := by
  cases cause with
  | none => rfl
  | some cause => rfl

/-- The item of a lexeme is the one that its token has in front of the tokens behind it. -/
theorem Lexeme.item_eq {behind last : Cursor} {tokens : List Token} {cause : Option Cause}
    (passage : Passage behind tokens last) (stops : (Trivia.skip last).finding = .stop cause)
    (place : Place) (lexeme : Lexeme) (start : Location)
    (finish : start.offset + byteSize lexeme.source = behind.location.offset) :
    lexeme.item place start behind = Token.item place tokens ⟨lexeme, start.offset⟩ := by
  unfold Lexeme.item Token.item
  congr 1
  exact Token.kind_eq passage stops place ⟨lexeme, start.offset⟩ finish

/-- A scanner that comes to a token hands out the item that the token has in front of the
tokens behind it. -/
theorem Scanner.next_of_passage {cursor last : Cursor} {lexeme : Lexeme} {rest : List Char}
    {tokens : List Token} {cause : Option Cause}
    (found : (Trivia.skip cursor).finding = .lexeme lexeme rest)
    (later : Passage ((Trivia.skip cursor).move lexeme.source rest) tokens last)
    (stops : (Trivia.skip last).finding = .stop cause) (place : Place) :
    Scanner.next { cursor, place } =
      let item := Token.item place tokens ⟨lexeme, (Trivia.skip cursor).location.offset⟩
      (item, { cursor := (Trivia.skip cursor).move lexeme.source rest,
               place := .following item.kind item.value }) := by
  have same := Lexeme.item_eq later stops place lexeme (Trivia.skip cursor).location
    (by simp [Cursor.move])
  rw [next_of_lexeme place found]
  simp only [same]

/-- The kind of a token never ends the stream. -/
theorem Token.isEnding_kind (place : Place) (later : List Token) (token : Token) :
    (token.kind place later).isEnding = false := by
  unfold kind
  split
  · split <;> rfl
  · (repeat' split) <;> rfl
  · split <;> rfl
  · exact Lexeme.isEnding_kind _ _ _

/-- No item of a token ends the stream. -/
theorem Token.isEnding_of_mem_items {place : Place} {tokens : List Token} {item : Item}
    (member : item ∈ Token.items place tokens) : item.kind.isEnding = false := by
  induction tokens generalizing place with
  | nil => cases member
  | cons token later inductionHypothesis =>
      rcases List.mem_cons.mp member with rfl | behind
      · exact isEnding_kind place later token
      · exact inductionHypothesis behind

/-- No item of a token carries a fault. -/
theorem Token.fault_eq_none_of_mem_items {place : Place} {tokens : List Token} {item : Item}
    (member : item ∈ Token.items place tokens) : item.fault = none := by
  induction tokens generalizing place with
  | nil => cases member
  | cons token later inductionHypothesis =>
      rcases List.mem_cons.mp member with rfl | behind
      · rfl
      · exact inductionHypothesis behind

namespace ItemStream

theorem drain_of_next?_eq_none {stream : ItemStream} (spent : stream.next? = none) :
    stream.drain.1 = [] := by
  rw [drain]
  split
  · rfl
  · rename_i handed
    cases spent.symm.trans handed

theorem drain_of_next?_eq_some {stream after : ItemStream} {item : Item}
    (handed : stream.next? = some (item, after)) :
    stream.drain.1 = (item, after.place) :: after.drain.1 := by
  rw [drain]
  split
  · rename_i spent
    cases handed.symm.trans spent
  · rename_i handed'
    cases handed.symm.trans handed'
    rfl

/-- All items that `next?` has left. -/
def items (stream : ItemStream) : List Item :=
  stream.drain.1.map Prod.fst

theorem items_of_next?_eq_none {stream : ItemStream} (spent : stream.next? = none) :
    stream.items = [] := by
  rw [items, drain_of_next?_eq_none spent]
  rfl

theorem items_of_next?_eq_some {stream after : ItemStream} {item : Item}
    (handed : stream.next? = some (item, after)) : stream.items = item :: after.items := by
  rw [items, drain_of_next?_eq_some handed]
  rfl

/-- A running stream hands out what its scanner does. -/
theorem next?_of_running (scanner : Scanner) :
    next? { scanner } =
      some (scanner.next.1,
        { scanner := scanner.next.2, progress := (Progress.ofItem scanner.next.1).exhaust }) :=
  rfl

/-- The items of a stream are those of the tokens ahead and the one that ends it. -/
theorem items_of_passage {cursor last : Cursor} {tokens : List Token} {cause : Option Cause}
    (passage : Passage cursor tokens last) (stops : (Trivia.skip last).finding = .stop cause)
    (place : Place) :
    items { scanner := { cursor, place } } =
      Token.items place tokens ++ [(Trivia.skip last).closing cause] := by
  induction passage generalizing place with
  | @here cursor =>
      obtain ⟨after, scanned, _⟩ := Scanner.next_of_stop place stops
      have ending := Cursor.isEnding_closing (Trivia.skip cursor) cause
      have handed := next?_of_running { cursor, place }
      simp only [scanned, Progress.ofItem, ending, if_true, Progress.exhaust] at handed
      rw [items_of_next?_eq_some handed, items_of_next?_eq_none rfl]
      rfl
  | @more cursor last lexeme rest tokens found later inductionHypothesis =>
      have scanned := Scanner.next_of_passage found later stops place
      have handed := next?_of_running { cursor, place }
      simp only [scanned, Progress.ofItem, Token.item, Token.isEnding_kind] at handed
      rw [items_of_next?_eq_some handed, Token.items]
      exact congrArg _ (inductionHypothesis stops _)

end ItemStream

/-- Reading a whole text starts with the next item. -/
theorem Scanner.items_of_next {scanner after : Scanner} {item : Item}
    (scanned : scanner.next = (item, after)) :
    scanner.items =
      match item.fault with
      | some fault => .error fault
      | none =>
          if item.kind = .endOfText then .ok []
          else
            match after.items with
            | .ok later => .ok (item :: later)
            | .error fault => .error fault := by
  rw [Scanner.items]
  split
  rename_i handed
  cases scanned.symm.trans handed
  split
  · rename_i faulty
    simp only [faulty]
  · rename_i faultless
    simp only [faultless]
    split <;> rfl

/-- What reading a whole text comes to when it stops at a cursor, the items before it
being given. -/
def Cursor.outcome (cursor : Cursor) (found : List Item) :
    Option Cause → Except Fault (List Item)
  | none => .ok found
  | some cause => .error { cause, location := cursor.location }

/-- Reading a whole text gives the items of its tokens, or the fault where it stops. -/
theorem Scanner.items_of_passage {cursor last : Cursor} {tokens : List Token}
    {cause : Option Cause} (passage : Passage cursor tokens last)
    (stops : (Trivia.skip last).finding = .stop cause) (place : Place) :
    Scanner.items { cursor, place } =
      (Trivia.skip last).outcome (Token.items place tokens) cause := by
  induction passage generalizing place with
  | @here cursor =>
      obtain ⟨after, scanned, _⟩ := next_of_stop place stops
      rw [items_of_next scanned]
      cases cause with
      | none => rfl
      | some cause => rfl
  | @more cursor last lexeme rest tokens found later inductionHypothesis =>
      have scanned := Scanner.next_of_passage found later stops place
      rw [items_of_next scanned]
      generalize isToken : (⟨lexeme, (Trivia.skip cursor).location.offset⟩ : Token) = token
      have faultless : (token.item place tokens).fault = none := rfl
      have notEnd : (token.item place tokens).kind ≠ .endOfText := by
        intro ending
        have goesOn : (token.item place tokens).kind.isEnding = false :=
          Token.isEnding_kind place tokens token
        rw [ending] at goesOn
        cases goesOn
      simp only [faultless]
      rw [if_neg notEnd, inductionHypothesis stops]
      cases cause with
      | none => rfl
      | some cause => rfl

end StyleLexer
