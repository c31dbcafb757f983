import StyleLexer.Unicode.Alphabetic
import StyleLexer.Unicode.Numeric

/-!
# Identifier characters

Which characters open an identifier and which ones continue a name. A name goes on as
long as it can: `Identifier.name` and `Identifier.behindName` are the two parts of a text,
and nothing else decides where a name in a stylesheet ends.
-/

namespace StyleLexer.Identifier

/-- A letter or an underscore opens an identifier. -/
def isStart (c : Char) : Bool :=
  Unicode.isAlphabetic c || c == '_'

/-- Letters, numbers, hyphens and underscores continue a name. -/
def isPart (c : Char) : Bool :=
  Unicode.isAlphabetic c || Unicode.isNumeric c || c == '-' || c == '_'

/-- What opens an identifier also continues one. -/
theorem isPart_of_isStart {c : Char} (start : isStart c = true) : isPart c = true := by
  simp only [isStart, Bool.or_eq_true] at start
  simp only [isPart, Bool.or_eq_true]
  exact start.elim (fun letter => .inl (.inl (.inl letter))) .inr

/-- Decimal digits continue a name. -/
theorem isPart_of_isDigit {c : Char} (digit : c.isDigit = true) : isPart c = true := by
  simp [isPart, Unicode.isNumeric_of_isDigit digit]

/-- The name at the front of a text, possibly empty. -/
def name (text : List Char) : List Char :=
  text.takeWhile isPart

/-- The text behind the name at the front. -/
def behindName (text : List Char) : List Char :=
  text.dropWhile isPart

/-- A name and what lies behind it make up the text. -/
theorem name_append_behindName (text : List Char) : name text ++ behindName text = text :=
  List.takeWhile_append_dropWhile

/-- A name holds nothing but the characters that continue one. -/
theorem isPart_of_mem_name {text : List Char} {c : Char} (member : c ∈ name text) :
    isPart c = true :=
  List.all_eq_true.mp List.all_takeWhile c member

/-- No character that continues a name stands behind it. -/
theorem isPart_head_behindName {text : List Char} {c : Char}
    (behind : (behindName text).head? = some c) : isPart c = false := by
  have stops := List.head?_dropWhile_not isPart text
  unfold behindName at behind
  rw [behind] at stops
  simpa using stops

end StyleLexer.Identifier
