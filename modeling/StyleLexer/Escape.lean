import StyleLexer.Unicode.DefaultIgnorable
import StyleLexer.Unicode.GraphemeExtend
import StyleLexer.Unicode.Unprintable

/-!
# Characters inside messages

A message shows a character as itself only where the reader can see it standing alone.
`Escape.text` is the one place that decides how a character is shown.
-/

namespace StyleLexer.Escape

/-- The character draws on the one before it. The two halfwidth voicing marks U+FF9E and
U+FF9F extend a grapheme as well, but each fills a cell of its own. -/
def isCombining (c : Char) : Bool :=
  Unicode.isGraphemeExtend c && c.toNat != 0xFF9E && c.toNat != 0xFF9F

/-- The character shows nothing: it is unprintable by its category, or ignorable where it
is not supported. -/
def isInvisible (c : Char) : Bool :=
  Unicode.isUnprintable c || Unicode.isDefaultIgnorable c

/-- A character by its number: lower-case hexadecimal digits in braces, without leading
zeros. -/
def byNumber (c : Char) : String :=
  "\\u\x7b" ++ String.ofList (Nat.toDigits 16 c.toNat) ++ "\x7d"

/-- How a message shows a character: common controls, quotes and the backslash by a
short escape, other characters that cannot be seen alone by number, the rest as they
are. -/
def text (c : Char) : String :=
  match c with
  | '\x00' => "\\0"
  | '\t' => "\\t"
  | '\r' => "\\r"
  | '\n' => "\\n"
  | '\\' => "\\\\"
  | '\x27' => "\\'"
  | '\x22' => "\\\""
  | c => if isCombining c || isInvisible c then byNumber c else c.toString

end StyleLexer.Escape
