import StyleLexer.Escape
import StyleLexer.Location

/-!
# Faults

Why reading a stylesheet stopped, and where. Each cause has one wording,
`Cause.message`; `Fault.message` adds the line and the column.
-/

namespace StyleLexer

/-- Why no further item could be read. -/
inductive Cause where
  /-- A quoted literal runs to the end of the text. -/
  | unclosedQuote
  /-- An interpolation has no brace that matches its opening one. -/
  | unclosedInterpolation
  /-- A block comment runs to the end of the text. -/
  | unclosedComment
  /-- The character cannot open an item where it stands. -/
  | strayCharacter (c : Char)
deriving DecidableEq, Repr

/-- The wording of a cause, without its location. -/
def Cause.message : Cause → String
  | .unclosedQuote => "unterminated quoted string"
  | .unclosedInterpolation => "unterminated interpolation, expected '\x7d'"
  | .unclosedComment => "unterminated block comment"
  | .strayCharacter c => "unexpected character: " ++ Escape.text c

/-- A cause together with the location of the lexeme or comment at fault. -/
structure Fault where
  cause : Cause
  location : Location
deriving DecidableEq, Repr

/-- The wording of a fault, with its line and column. -/
def Fault.message (fault : Fault) : String :=
  fault.cause.message ++ " at line " ++ fault.location.line.repr ++
    ", column " ++ fault.location.column.repr

end StyleLexer
