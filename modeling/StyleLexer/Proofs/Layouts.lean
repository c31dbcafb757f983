import Mathlib.Data.List.Forall2
import StyleLexer.Proofs.Stretches
import StyleLexer.Proofs.TokenLists

/-!
# Layouts

How far the tokens of a text stand apart makes no difference, as long as the same ones touch.
`Token.SameLayout` relates two lists of tokens of which this is true, and
`Token.SameLayout.items` says that their items are the same up to their offsets.
`Token.sameLayout_append` is the case at hand: some tokens stay, and those behind them move.
-/

namespace StyleLexer

/-- The same item elsewhere: the offset goes where it may, and a fault keeps its cause. -/
structure Item.Moved (moves : Nat → Nat → Prop) (item item' : Item) : Prop where
  kind : item'.kind = item.kind
  value : item'.value = item.value
  cause : item'.fault.map Fault.cause = item.fault.map Fault.cause
  offset : moves item.offset item'.offset

/-- Items that end a stream for one reason are the same up to their offsets. -/
theorem Cursor.closing_moved {moves : Nat → Nat → Prop} {cursor cursor' : Cursor}
    (offset : moves cursor.location.offset cursor'.location.offset) (cause : Option Cause) :
    Item.Moved moves (cursor.closing cause) (cursor'.closing cause) := by
  cases cause with
  | none => exact ⟨rfl, rfl, rfl, offset⟩
  | some cause => exact ⟨rfl, rfl, rfl, offset⟩

/-- Where an offset goes when, from `bound` on, `size` bytes give way to `size'`: below the
bound it stays, and from there on it moves by the difference. -/
def movedBehind (bound size size' offset offset' : Nat) : Prop :=
  if offset < bound then offset' = offset else offset' + size = offset + size'

/-- What lies below the bound stays. -/
theorem movedBehind_of_lt {bound offset : Nat} (below : offset < bound) (size size' : Nat) :
    movedBehind bound size size' offset offset := by
  simp [movedBehind, below]

/-- What lies behind the bytes that give way moves with their end. -/
theorem movedBehind_add (bound size size' further : Nat) :
    movedBehind bound size size' (bound + size + further) (bound + size' + further) := by
  rw [movedBehind, if_neg (by omega)]
  omega

namespace Token

/-- The first of the tokens begins where this one ends. -/
def touches (token : Token) (later : List Token) : Bool :=
  later.head?.any fun next => next.offset == token.finish

/-- Lists of the same lexemes, of which the same touch. The offset of each value goes where it
may. -/
inductive SameLayout (moves : Nat → Nat → Prop) : List Token → List Token → Prop where
  | nil : SameLayout moves [] []
  | cons {token token' : Token} {later later' : List Token}
      (lexeme : token'.lexeme = token.lexeme)
      (touch : token'.touches later' = token.touches later)
      (offset : moves (token.offset + token.lexeme.lead) (token'.offset + token'.lexeme.lead))
      (more : SameLayout moves later later') : SameLayout moves (token :: later) (token' :: later')

/-- A parenthesis follows right behind a token if it is the next one and touches it. -/
theorem parenthesisAt_finish (token : Token) (later : List Token) :
    parenthesisAt token.finish later = (symbolLeads '(' later && token.touches later) := by
  cases later with
  | nil => rfl
  | cons next later => simp [parenthesisAt, symbolLeads, touches]

/-- A call comes next if a word does and a parenthesis follows right behind it. -/
theorem callLeads_cons (token : Token) (later : List Token) :
    callLeads (token :: later) =
      match token.lexeme with
      | .word _ => parenthesisAt token.finish later
      | _ => false := by
  obtain ⟨lexeme, offset⟩ := token
  cases lexeme <;> rfl

namespace SameLayout

variable {moves : Nat → Nat → Prop} {token token' : Token} {later later' : List Token}

theorem symbolLeads (same : SameLayout moves later later') (c : Char) :
    symbolLeads c later' = symbolLeads c later := by
  cases same with
  | nil => rfl
  | cons lexeme touch offset more => simp [Token.symbolLeads, lexeme]

theorem parenthesisAt (same : SameLayout moves later later')
    (touch : token'.touches later' = token.touches later) :
    parenthesisAt token'.finish later' = parenthesisAt token.finish later := by
  rw [parenthesisAt_finish, parenthesisAt_finish, same.symbolLeads, touch]

theorem callLeads (same : SameLayout moves later later') : callLeads later' = callLeads later := by
  cases same with
  | nil => rfl
  | cons lexeme touch offset more =>
      rw [callLeads_cons, callLeads_cons, lexeme, more.parenthesisAt touch]

/-- The kind of a token depends on the lexemes around it and on which of them touch. -/
theorem kind (same : SameLayout moves later later') (lexeme : token'.lexeme = token.lexeme)
    (touch : token'.touches later' = token.touches later) (place : Place) :
    token'.kind place later' = token.kind place later := by
  unfold Token.kind
  rw [lexeme, same.symbolLeads, same.callLeads, same.parenthesisAt touch]

/-- Tokens of the same layout have the same items, up to their offsets. -/
theorem items (same : SameLayout moves later later') (place : Place) :
    List.Forall₂ (Item.Moved moves) (items place later) (items place later') := by
  induction same generalizing place with
  | nil => exact .nil
  | @cons token token' later later' lexeme touch offset more inductionHypothesis =>
      have sameKind := more.kind lexeme touch place
      have sameValue : (token'.item place later').value = (token.item place later).value := by
        simp [item, lexeme]
      refine .cons ⟨sameKind, sameValue, rfl, offset⟩ ?_
      rw [show (token'.item place later').kind = (token.item place later).kind from sameKind,
        sameValue]
      exact inductionHypothesis _

end SameLayout

/-- Tokens that move together keep their layout. -/
theorem sameLayout_shift {moves : Nat → Nat → Prop} {relative : List Token} {bytes bytes' : Nat}
    (move : ∀ token ∈ relative, moves (bytes + token.offset + token.lexeme.lead)
      (bytes' + token.offset + token.lexeme.lead)) :
    SameLayout moves (relative.map (shift bytes)) (relative.map (shift bytes')) := by
  induction relative with
  | nil => exact .nil
  | cons token relative inductionHypothesis =>
      obtain ⟨moved, later⟩ := List.forall_mem_cons.mp move
      refine .cons rfl ?_ moved (inductionHypothesis later)
      cases relative with
      | nil => rfl
      | cons next relative =>
          rw [Bool.eq_iff_iff]
          simp [touches, shift, finish, Nat.add_assoc]

/-- No token touches those that have been moved beyond its end. -/
theorem touches_shift {token : Token} {bytes : Nat} (beyond : token.finish < bytes)
    (relative : List Token) : token.touches (relative.map (shift bytes)) = false := by
  cases relative with
  | nil => rfl
  | cons next relative =>
      have apart : bytes + next.offset ≠ token.finish := by omega
      simpa [touches, shift] using apart

/-- Tokens that move without touching the ones in front of them keep the layout. -/
theorem sameLayout_append {moves : Nat → Nat → Prop} {tokens relative : List Token}
    {bytes bytes' : Nat}
    (stay : ∀ token ∈ tokens,
      moves (token.offset + token.lexeme.lead) (token.offset + token.lexeme.lead))
    (move : ∀ token ∈ relative, moves (bytes + token.offset + token.lexeme.lead)
      (bytes' + token.offset + token.lexeme.lead))
    (apart : relative = [] ∨ ∀ token ∈ tokens, token.finish < bytes ∧ token.finish < bytes') :
    SameLayout moves (tokens ++ relative.map (shift bytes))
      (tokens ++ relative.map (shift bytes')) := by
  induction tokens with
  | nil => exact sameLayout_shift move
  | cons token tokens inductionHypothesis =>
      obtain ⟨stays, later⟩ := List.forall_mem_cons.mp stay
      have apartLater := apart.imp_right fun finished => (List.forall_mem_cons.mp finished).2
      refine .cons rfl ?_ stays (inductionHypothesis later apartLater)
      -- Only the last of the tokens that stay could touch one that moves.
      cases tokens with
      | cons next tokens => rfl
      | nil =>
          rcases apart with rfl | finished
          · rfl
          · obtain ⟨beyond, beyond'⟩ := finished token List.mem_cons_self
            exact (touches_shift beyond' relative).trans (touches_shift beyond relative).symm

end Token

/-- The value of a lexeme begins inside it. -/
theorem Lexeme.lead_lt {rest : List Char} {lexeme : Lexeme} (fits : lexeme.Fits rest) :
    lexeme.lead < byteSize lexeme.source := by
  have positive := Nat.pos_of_ne_zero (mt byteSize_eq_zero_iff.mp (source_ne_nil fits))
  cases lexeme with
  | interpolation body =>
      have marks : byteSize ['#', '\x7b'] = 2 := rfl
      have mark : byteSize ['\x7d'] = 1 := rfl
      simp only [lead, source, byteSize_append]
      omega
  | quoted quote body =>
      have first := quote.utf8Size_pos
      simp only [lead, source, byteSize_append, byteSize_cons, byteSize_nil]
      omega
  | _ => exact positive

/-- Every token of a stretch ends inside it, and its value begins in front of its end. -/
theorem Stretch.finish_le_of_mem {behind before passed : List Char} {tokens : List Token}
    (stretch : Stretch behind before passed tokens) {token : Token} (member : token ∈ tokens) :
    token.offset + token.lexeme.lead < token.finish ∧
      token.finish ≤ byteSize (before ++ passed) := by
  induction stretch with
  | empty => cases member
  | @more before trivia passed lexeme tokens _ _ fits _ inductionHypothesis =>
      have whole : before ++ (trivia ++ lexeme.source ++ passed) =
          before ++ trivia ++ lexeme.source ++ passed := by simp
      rw [whole]
      rcases List.mem_cons.mp member with rfl | further
      · have inside := Lexeme.lead_lt fits
        simp only [Token.finish, byteSize_append]
        omega
      · exact inductionHypothesis further

/-- Another gap between tokens moves the items behind it and the end. -/
theorem items_moved_around {tokens relative : List Token}
    {front gap gap' passed behind : List Char}
    (inside : ∀ token ∈ tokens,
      token.offset + token.lexeme.lead < token.finish ∧ token.finish ≤ byteSize front)
    (parts : tokens = [] ∨ relative = [] ∨ gap ≠ [] ∧ gap' ≠ []) (cause : Option Cause) :
    List.Forall₂ (Item.Moved (movedBehind (byteSize front) (byteSize gap) (byteSize gap')))
      (Token.items .initial (tokens ++ relative.map (Token.shift (byteSize (front ++ gap)))) ++
        [(Cursor.between (front ++ gap ++ passed) behind).closing cause])
      (Token.items .initial (tokens ++ relative.map (Token.shift (byteSize (front ++ gap')))) ++
        [(Cursor.between (front ++ gap' ++ passed) behind).closing cause]) := by
  have layout : Token.SameLayout
      (movedBehind (byteSize front) (byteSize gap) (byteSize gap'))
      (tokens ++ relative.map (Token.shift (byteSize (front ++ gap))))
      (tokens ++ relative.map (Token.shift (byteSize (front ++ gap')))) := by
    rw [byteSize_append, byteSize_append]
    apply Token.sameLayout_append
    · intro token member
      obtain ⟨lead, finish⟩ := inside token member
      exact movedBehind_of_lt (Nat.lt_of_lt_of_le lead finish) _ _
    · intro token _
      rw [Nat.add_assoc, Nat.add_assoc (byteSize front + byteSize gap')]
      exact movedBehind_add _ _ _ _
    · rcases parts with rfl | none | ⟨nonempty, nonempty'⟩
      · exact .inr nofun
      · exact .inl none
      · have positive := Nat.pos_of_ne_zero (mt byteSize_eq_zero_iff.mp nonempty)
        have positive' := Nat.pos_of_ne_zero (mt byteSize_eq_zero_iff.mp nonempty')
        refine .inr fun token member => ?_
        obtain ⟨_, finish⟩ := inside token member
        constructor <;> omega
  refine List.rel_append (layout.items .initial) (.cons (Cursor.closing_moved ?_ cause) .nil)
  rw [Cursor.between_offset, Cursor.between_offset, byteSize_append, byteSize_append,
    byteSize_append, byteSize_append]
  exact movedBehind_add _ _ _ _

end StyleLexer
