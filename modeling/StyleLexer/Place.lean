import StyleLexer.Item

/-!
# Places in a statement

A variable name declares only at the start of a statement, and a colon introduces a
command only right after a declared name. `Place` records which of these holds, and
`Place.following` is the whole rule: the last item alone decides.
-/

namespace StyleLexer

/-- Where the next item stands in its statement. -/
inductive Place where
  /-- At the start of the text, or right after a semicolon or a brace. -/
  | statementStart
  /-- Right after a declared variable name. -/
  | afterDeclaration
  /-- Anywhere else in a statement. -/
  | expression
deriving DecidableEq, Repr

namespace Place

/-- A text starts with a statement. -/
def initial : Place := .statementStart

/-- Semicolons and braces end a statement. -/
def endsStatement (value : String) : Bool :=
  value == ";" || value == "\x7b" || value == "\x7d"

/-- The place behind an item of the given kind and text. -/
def following (kind : Kind) (value : String) : Place :=
  match kind with
  | .declaration => .afterDeclaration
  | .punctuation => if endsStatement value then .statementStart else .expression
  | _ => .expression

/-- A variable name here may be a declaration. -/
def allowsDeclaration (place : Place) : Bool :=
  place == .statementStart

/-- A colon here may introduce a command. -/
def allowsCommandColon (place : Place) : Bool :=
  place == .afterDeclaration

end Place

end StyleLexer
