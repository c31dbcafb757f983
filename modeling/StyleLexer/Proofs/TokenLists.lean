import StyleLexer.Proofs.TokenKinds

/-!
# Lists of tokens

How the items of tokens come about, apart from any text. `Token.kind_cases` says which
kinds there are for which lexemes. `Token.items_eq_append` and `Token.items_append` take
items apart and put them together: in front of a separator no kind depends on what is behind
it. `Token.items_shift` moves tokens and their items alike.
-/

namespace StyleLexer

/-- The marks that end a statement. -/
def statementMarks : List Char := [';', '\x7b', '\x7d']

/-- The item is one of the marks that end a statement. -/
def Item.endsStatement (item : Item) : Bool :=
  item.kind == .punctuation && statementMarks.any fun mark => item.value == String.singleton mark

/-- The same item further on in a text. -/
def Item.shift (bytes : Nat) (item : Item) : Item :=
  { item with offset := bytes + item.offset }

namespace Place

/-- The place behind the last of some items, or the place where they start. -/
def behind (place : Place) (items : List Item) : Place :=
  match items.getLast? with
  | none => place
  | some item => .following item.kind item.value

theorem behind_cons (place : Place) (item : Item) (items : List Item) :
    place.behind (item :: items) = (following item.kind item.value).behind items := by
  cases items with
  | nil => rfl
  | cons next items =>
      have isLast := List.getLast?_eq_some_getLast (List.cons_ne_nil next items)
      simp only [behind, List.getLast?_cons_cons, isLast]

/-- The place behind an item is decided by whether the item ends a statement or declares. -/
theorem following_eq (item : Item) :
    following item.kind item.value =
      if item.endsStatement then .statementStart
      else if item.kind = .declaration then .afterDeclaration
      else .expression := by
  have marks : endsStatement item.value =
      statementMarks.any fun mark => item.value == String.singleton mark := by
    simp [endsStatement, statementMarks, Bool.or_assoc]
  unfold following Item.endsStatement
  cases item.kind with
  | punctuation => simp [marks]
  | _ => rfl

/-- Behind the end of a statement a new one starts. -/
theorem behind_of_endsStatement {items : List Item} {last : Item}
    (isLast : items.getLast? = some last) (ends : last.endsStatement = true) (place : Place) :
    place.behind items = .initial := by
  simp only [behind, isLast, following_eq, ends, if_true]
  rfl

end Place

/-- A kind that does not depend on the place, and what it says about its lexeme. -/
structure Lexeme.Fixed (lexeme : Lexeme) (kind : Kind) : Prop where
  notVariable : ∀ name, lexeme ≠ .variableName name
  notWord : ∀ text, lexeme ≠ .word text
  notColon : lexeme ≠ .symbol ':'
  notDeclaration : kind ≠ .declaration
  notCommandColon : kind ≠ .commandColon
  notCommand : kind ≠ .command
  notSpriteCommand : kind ≠ .spriteCommand
  /-- The only other use of a variable is the body of an interpolation. -/
  interpolation : kind = .reference → ∃ body, lexeme = .interpolation body
  symbol : kind = .punctuation → ∃ c, lexeme = .symbol c

namespace Token

variable (place : Place) (later : List Token) (token : Token)

/-- Variable names, words and colons are judged by what is around them, and nothing else
is. -/
theorem kind_cases :
    (∃ name, token.lexeme = .variableName name ∧
      token.kind place later =
        if place.allowsDeclaration && symbolLeads ':' later then .declaration
        else .reference) ∨
    (∃ text, token.lexeme = .word text ∧
      token.kind place later =
        if parenthesisAt token.finish later then
          if text = "sprite".toList then .spriteCommand else .command
        else .text) ∨
    (token.lexeme = .symbol ':' ∧
      token.kind place later =
        if place.allowsCommandColon && callLeads later then .commandColon
        else .punctuation) ∨
    token.lexeme.Fixed (token.kind place later) := by
  obtain ⟨lexeme, offset⟩ := token
  cases lexeme with
  | variableName name => exact .inl ⟨name, rfl, rfl⟩
  | word text => exact .inr (.inl ⟨text, rfl, rfl⟩)
  | symbol c =>
      by_cases colon : c = ':'
      · subst colon
        exact .inr (.inr (.inl ⟨rfl, rfl⟩))
      · refine .inr (.inr (.inr ?_))
        rw [kind_symbol_of_ne_colon colon]
        unfold Lexeme.symbolKind
        split <;> constructor <;> simp_all
  | quoted quote body =>
      refine .inr (.inr (.inr ?_))
      simp only [kind, Lexeme.kind, Literal.kind]
      split <;> constructor <;> simp
  | directive name =>
      refine .inr (.inr (.inr ?_))
      simp only [kind, Lexeme.kind]
      split <;> constructor <;> simp
  | _ =>
      refine .inr (.inr (.inr ?_))
      constructor <;> simp [kind, Lexeme.kind]

/-- Only a variable name declares. -/
theorem kind_eq_declaration_iff :
    token.kind place later = .declaration ↔
      (∃ name, token.lexeme = .variableName name) ∧ place.allowsDeclaration = true ∧
        symbolLeads ':' later = true := by
  obtain ⟨name, lexeme, kind⟩ | ⟨text, lexeme, kind⟩ | ⟨lexeme, kind⟩ | fixed :=
    kind_cases place later token
  · rw [kind, lexeme]
    simp
  · rw [kind, lexeme]
    (repeat' split) <;> simp
  · rw [kind, lexeme]
    split <;> simp
  · simp [fixed.notDeclaration, fixed.notVariable]

/-- Only a colon introduces a command. -/
theorem kind_eq_commandColon_iff :
    token.kind place later = .commandColon ↔
      token.lexeme = .symbol ':' ∧ place.allowsCommandColon = true ∧ callLeads later = true := by
  obtain ⟨name, lexeme, kind⟩ | ⟨text, lexeme, kind⟩ | ⟨lexeme, kind⟩ | fixed :=
    kind_cases place later token
  · rw [kind, lexeme]
    split <;> simp
  · rw [kind, lexeme]
    (repeat' split) <;> simp
  · rw [kind, lexeme]
    simp
  · simp [fixed.notCommandColon, fixed.notColon]

/-- Only variable names and the bodies of interpolations are references. -/
theorem exists_of_kind_eq_reference (reference : token.kind place later = .reference) :
    (∃ name, token.lexeme = .variableName name) ∨
      ∃ body, token.lexeme = .interpolation body := by
  obtain ⟨name, lexeme, _⟩ | ⟨text, lexeme, kind⟩ | ⟨lexeme, kind⟩ | fixed :=
    kind_cases place later token
  · exact .inl ⟨name, lexeme⟩
  · rw [kind] at reference
    (repeat' split at reference) <;> cases reference
  · rw [kind] at reference
    split at reference <;> cases reference
  · exact .inr (fixed.interpolation reference)

/-- Only symbols are punctuation. -/
theorem exists_of_kind_eq_punctuation (punctuation : token.kind place later = .punctuation) :
    ∃ c, token.lexeme = .symbol c := by
  obtain ⟨name, lexeme, kind⟩ | ⟨text, lexeme, kind⟩ | ⟨lexeme, _⟩ | fixed :=
    kind_cases place later token
  · rw [kind] at punctuation
    split at punctuation <;> cases punctuation
  · rw [kind] at punctuation
    (repeat' split at punctuation) <;> cases punctuation
  · exact ⟨':', lexeme⟩
  · exact fixed.symbol punctuation

/-- There is an item for each token. -/
@[simp] theorem length_items (place : Place) (tokens : List Token) :
    (items place tokens).length = tokens.length := by
  induction tokens generalizing place with
  | nil => rfl
  | cons token tokens inductionHypothesis => exact congrArg Nat.succ (inductionHypothesis _)

/-- The items of some tokens split where the tokens do: an item is that of its token, at the
place behind the items before it and in front of the tokens behind it. -/
theorem items_eq_append {place : Place} {tokens : List Token} {before after : List Item}
    {item : Item} (split : items place tokens = before ++ item :: after) :
    ∃ front token later, tokens = front ++ token :: later ∧ front.length = before.length ∧
      item = token.item (place.behind before) later ∧
      after = items (.following item.kind item.value) later := by
  induction before generalizing place tokens with
  | nil =>
      cases tokens with
      | nil => cases split
      | cons token later =>
          obtain ⟨rfl, rfl⟩ := List.cons.inj split
          exact ⟨[], token, later, rfl, rfl, rfl, rfl⟩
  | cons first before inductionHypothesis =>
      cases tokens with
      | nil => cases split
      | cons token tokens =>
          obtain ⟨rfl, rest⟩ := List.cons.inj split
          obtain ⟨front, token', later, rfl, size, found, ahead⟩ := inductionHypothesis rest
          refine ⟨token :: front, token', later, rfl, congrArg Nat.succ size, ?_, ahead⟩
          rw [Place.behind_cons]
          exact found

/-- The last item is that of the last token. -/
theorem exists_of_getLast?_items {place : Place} {tokens : List Token} {last : Item}
    (isLast : (items place tokens).getLast? = some last) :
    ∃ token place', tokens.getLast? = some token ∧ last = token.item place' [] := by
  obtain ⟨before, split⟩ := List.getLast?_eq_some_iff.mp isLast
  obtain ⟨front, token, later, rfl, _, found, none⟩ := items_eq_append split
  cases later with
  | nil => exact ⟨token, _, by simp, found⟩
  | cons next later => cases none

section Separators

variable {place} {token} {tokens : List Token}

/-- Some symbol other than a colon, if there is any, is the last of the tokens. -/
def Separated (tokens : List Token) : Prop :=
  ∀ token, tokens.getLast? = some token → ∃ c, token.lexeme = .symbol c ∧ c ≠ ':'

theorem Separated.tail (separated : Separated (token :: tokens)) : Separated tokens := by
  intro last isLast
  cases tokens with
  | nil => cases isLast
  | cons next tokens => exact separated last (by rwa [List.getLast?_cons_cons])

/-- The kind of a token in front of a separator does not depend on what is behind the
separator. -/
theorem kind_append (separated : Separated tokens) (nonempty : tokens ≠ []) :
    token.kind place (tokens ++ later) = token.kind place tokens := by
  have symbol : symbolLeads ':' (tokens ++ later) = symbolLeads ':' tokens := by
    cases tokens with
    | nil => exact absurd rfl nonempty
    | cons first tokens => rfl
  have parenthesis (offset : Nat) (tokens : List Token) (nonempty : tokens ≠ []) :
      parenthesisAt offset (tokens ++ later) = parenthesisAt offset tokens := by
    cases tokens with
    | nil => exact absurd rfl nonempty
    | cons first tokens => rfl
  have call : callLeads (tokens ++ later) = callLeads tokens := by
    match tokens, nonempty with
    | [first], _ =>
        obtain ⟨c, lexeme, _⟩ := separated first rfl
        obtain ⟨_, offset⟩ := first
        subst lexeme
        rfl
    | first :: second :: tokens, _ =>
        obtain ⟨lexeme, offset⟩ := first
        cases lexeme <;> rfl
  unfold kind
  rw [symbol, parenthesis _ _ nonempty, call]

/-- The items of tokens behind a separator follow those of the tokens up to it. -/
theorem items_append (separated : Separated tokens) (place : Place) :
    items place (tokens ++ later) =
      items place tokens ++ items (place.behind (items place tokens)) later := by
  induction tokens generalizing place with
  | nil => rfl
  | cons token tokens inductionHypothesis =>
      have same : token.item place (tokens ++ later) = token.item place tokens := by
        unfold item
        congr 1
        by_cases nonempty : tokens = []
        · subst nonempty
          obtain ⟨c, lexeme, notColon⟩ := separated token rfl
          obtain ⟨_, offset⟩ := token
          subst lexeme
          rw [kind_symbol_of_ne_colon notColon, kind_symbol_of_ne_colon notColon]
        · exact kind_append later separated.tail nonempty
      rw [List.cons_append, items, items, same, Place.behind_cons, List.cons_append,
        inductionHypothesis separated.tail]

end Separators

section Shifting

variable (bytes : Nat) {place} {token} (tokens : List Token)

@[simp] theorem finish_shift : (token.shift bytes).finish = bytes + token.finish := by
  simp [finish, shift, Nat.add_assoc]

@[simp] theorem symbolLeads_shift (c : Char) :
    symbolLeads c (tokens.map (shift bytes)) = symbolLeads c tokens := by
  cases tokens with
  | nil => rfl
  | cons token tokens => rfl

@[simp] theorem parenthesisAt_shift (offset : Nat) :
    parenthesisAt (bytes + offset) (tokens.map (shift bytes)) = parenthesisAt offset tokens := by
  cases tokens with
  | nil => rfl
  | cons token tokens =>
      rw [Bool.eq_iff_iff]
      simp [parenthesisAt, shift]

@[simp] theorem callLeads_shift : callLeads (tokens.map (shift bytes)) = callLeads tokens := by
  cases tokens with
  | nil => rfl
  | cons token tokens =>
      obtain ⟨lexeme, offset⟩ := token
      cases lexeme with
      | word text =>
          simp only [callLeads, List.map_cons, shift, Nat.add_assoc]
          exact parenthesisAt_shift bytes tokens (offset + byteSize text)
      | _ => rfl

/-- Kinds do not depend on how far on in a text the tokens are. -/
theorem kind_shift :
    (token.shift bytes).kind place (tokens.map (shift bytes)) = token.kind place tokens := by
  have lexeme : (token.shift bytes).lexeme = token.lexeme := rfl
  unfold kind
  rw [lexeme, symbolLeads_shift, callLeads_shift, finish_shift, parenthesisAt_shift]

/-- The items of tokens move with them. -/
theorem items_shift (place : Place) :
    items place (tokens.map (shift bytes)) = (items place tokens).map (Item.shift bytes) := by
  induction tokens generalizing place with
  | nil => rfl
  | cons token tokens inductionHypothesis =>
      have same : (token.shift bytes).item place (tokens.map (shift bytes)) =
          (token.item place tokens).shift bytes := by
        simp only [item, Item.shift, kind_shift, Item.mk.injEq, true_and, and_true]
        exact ⟨rfl, Nat.add_assoc _ _ _⟩
      rw [List.map_cons, items, items, List.map_cons, same, inductionHypothesis]
      rfl

end Shifting

end Token

end StyleLexer
