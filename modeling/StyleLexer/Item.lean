import StyleLexer.Fault

/-!
# Items

What the lexer yields: a kind, the text the item stands for, and the byte offset where
that text begins. A stream of items ends with the first one of an ending kind.
-/

namespace StyleLexer

/-- What an item is in the stylesheet. -/
inductive Kind where
  /-- A variable name that is being declared. -/
  | declaration
  /-- A variable name that is being used, or the body of an interpolation. -/
  | reference
  /-- The colon between a declared variable and a command call. -/
  | commandColon
  /-- The name of a command, right before its parenthesis. -/
  | command
  /-- The name of the sprite command, right before its parenthesis. -/
  | spriteCommand
  /-- A quoted literal that names files. -/
  | file
  /-- A bare word, a directive, a hash name, or a quoted literal that names no file. -/
  | text
  /-- A run of decimal digits. -/
  | integer
  /-- A minus sign. -/
  | minus
  /-- The import directive. -/
  | importDirective
  /-- An opening parenthesis. -/
  | openParen
  /-- A closing parenthesis. -/
  | closeParen
  /-- An opening square bracket. -/
  | openBracket
  /-- A closing square bracket. -/
  | closeBracket
  /-- Any other punctuation. -/
  | punctuation
  /-- The end of the text. -/
  | endOfText
  /-- The end of the stream at a fault. -/
  | failure
deriving DecidableEq, Repr

namespace Kind

/-- The name of a kind in listings. -/
def name : Kind → String
  | .declaration => "VAR"
  | .reference => "SUB"
  | .commandColon => "CMDVAR"
  | .command => "CMD"
  | .spriteCommand => "SPRITE"
  | .file => "FILE"
  | .text => "TEXT"
  | .integer => "INT"
  | .minus => "MINUS"
  | .importDirective => "IMPORT"
  | .openParen => "LPAREN"
  | .closeParen => "RPAREN"
  | .openBracket => "LBRACKET"
  | .closeBracket => "RBRACKET"
  | .punctuation => "EXTRA"
  | .endOfText => "EOF"
  | .failure => "ERROR"

/-- An item of this kind is the last of its stream. -/
def isEnding : Kind → Bool
  | .endOfText => true
  | .failure => true
  | _ => false

end Kind

/-- One element of the stream that the lexer yields. -/
structure Item where
  kind : Kind
  /-- The text of the item, or the wording of the cause for a failure. -/
  value : String
  /-- The byte offset where the text begins, or the offset of the fault. -/
  offset : Nat
  /-- The fault behind a failure. -/
  fault : Option Fault := none
deriving DecidableEq, Repr

namespace Item

/-- The item that ends a stream at a fault. -/
def ofFault (fault : Fault) : Item where
  kind := .failure
  value := fault.cause.message
  offset := fault.location.offset
  fault := some fault

/-- The item that ends a stream at the end of the text. -/
def ofEnd (location : Location) : Item where
  kind := .endOfText
  value := ""
  offset := location.offset

/-- An item is shown as its text. -/
instance : ToString Item where
  toString item := item.value

end Item

end StyleLexer
