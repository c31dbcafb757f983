/-!
# Lexemes

A lexeme is a piece of text that an item covers, delimiters included. `Lexeme.source` is
that piece, `Lexeme.value` is the part of it that the item carries, and `Lexeme.lead` says
how far into the piece that part begins.
-/

namespace StyleLexer

/-- A piece of text that an item covers. -/
inductive Lexeme where
  /-- A dollar sign and a name. -/
  | variableName (name : List Char)
  /-- A body between hash and braces. -/
  | interpolation (body : List Char)
  /-- A body between two equal quotes. -/
  | quoted (quote : Char) (body : List Char)
  /-- Decimal digits. -/
  | number (digits : List Char)
  /-- An at sign and a name. -/
  | directive (name : List Char)
  /-- A bare word. -/
  | word (text : List Char)
  /-- A hash and a name. -/
  | hashName (name : List Char)
  /-- A single mark. -/
  | symbol (c : Char)
deriving DecidableEq, Repr

namespace Lexeme

/-- The text that a lexeme covers. -/
def source : Lexeme → List Char
  | variableName name => '$' :: name
  | interpolation body => ['#', '\x7b'] ++ body ++ ['\x7d']
  | quoted quote body => quote :: body ++ [quote]
  | number digits => digits
  | directive name => '@' :: name
  | word text => text
  | hashName name => '#' :: name
  | symbol c => [c]

/-- The text that the item of a lexeme carries: the body of a delimited lexeme, and all of
any other. -/
def value : Lexeme → List Char
  | interpolation body => body
  | quoted _ body => body
  | lexeme => lexeme.source

/-- The number of bytes in front of the value. -/
def lead : Lexeme → Nat
  | interpolation _ => 2
  | quoted _ _ => 1
  | _ => 0

end Lexeme

end StyleLexer
