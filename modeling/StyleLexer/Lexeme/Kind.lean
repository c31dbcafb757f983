import StyleLexer.Lexeme.Reading
import StyleLexer.Literal
import StyleLexer.Place
import StyleLexer.Trivia

/-!
# Kinds of lexemes

What a lexeme is in its statement. Only variable names and colons depend on the place;
for those and for words the text behind the lexeme decides as well. `Lexeme.kind` is the
whole rule, and it never changes which lexemes there are.
-/

namespace StyleLexer

/-- The next character that is no trivia, if there is one. In front of a block comment that
nothing closes this is the comment's slash. -/
def Cursor.nextCharacter (cursor : Cursor) : Option Char :=
  (Trivia.skip cursor).rest.head?

/-- What comes next, trivia apart, is an identifier right before a parenthesis. -/
def Cursor.commandFollows (cursor : Cursor) : Bool :=
  match (Trivia.skip cursor).rest with
  | [] => false
  | first :: text =>
      Identifier.isStart first && (Identifier.behindName text).head? == some '('

namespace Lexeme

/-- The kind of a single mark. A colon introduces a command only where one follows. -/
def symbolKind (place : Place) (behind : Cursor) (c : Char) : Kind :=
  match c with
  | '-' => .minus
  | '(' => .openParen
  | ')' => .closeParen
  | '[' => .openBracket
  | ']' => .closeBracket
  | ':' =>
      if place.allowsCommandColon && behind.commandFollows then .commandColon
      else .punctuation
  | _ => .punctuation

/-- The kind of a lexeme at `place`, with the cursor right behind it. -/
def kind (place : Place) (behind : Cursor) : Lexeme → Kind
  | variableName _ =>
      if place.allowsDeclaration && behind.nextCharacter == some ':' then .declaration
      else .reference
  | interpolation _ => .reference
  | quoted _ body => Literal.kind body
  | number _ => .integer
  | directive name => if name = "import".toList then .importDirective else .text
  | word text =>
      if behind.rest.head? = some '(' then
        if text = "sprite".toList then .spriteCommand else .command
      else .text
  | hashName _ => .text
  | symbol c => symbolKind place behind c

/-- No lexeme ends the stream. -/
theorem isEnding_kind (place : Place) (behind : Cursor) (lexeme : Lexeme) :
    (lexeme.kind place behind).isEnding = false := by
  cases lexeme with
  | variableName name => simp only [kind]; split <;> rfl
  | interpolation body => rfl
  | quoted quote body => simp only [kind, Literal.kind]; split <;> rfl
  | number digits => rfl
  | directive name => simp only [kind]; split <;> rfl
  | word text => simp only [kind]; (repeat' split) <;> rfl
  | hashName name => rfl
  | symbol c => simp only [kind, symbolKind]; (repeat' split) <;> rfl

/-- The item of a lexeme that starts at `start`. -/
def item (lexeme : Lexeme) (place : Place) (start : Location) (behind : Cursor) : Item where
  kind := lexeme.kind place behind
  value := String.ofList lexeme.value
  offset := start.offset + lexeme.lead

end Lexeme

end StyleLexer
