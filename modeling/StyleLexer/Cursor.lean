import StyleLexer.Location

/-!
# Cursors

A cursor is a boundary between two characters of a text: it knows the character before
it, its location, and everything behind it. `Cursor.between` is the cursor at a given
boundary, and `Cursor.between_move` says that moving goes from boundary to boundary.
-/

namespace StyleLexer

/-- A boundary in a text, as far as reading on from there needs to know it. -/
structure Cursor where
  /-- The character right before the boundary, if there is one. -/
  previous : Option Char
  location : Location
  /-- The text behind the boundary. -/
  rest : List Char

namespace Cursor

/-- The boundary behind `before` in the text `before ++ after`. -/
def between (before after : List Char) : Cursor where
  previous := before.getLast?
  location := .past .origin before
  rest := after

/-- The cursor behind `passed`, with `rest` still to come. -/
def move (cursor : Cursor) (passed rest : List Char) : Cursor where
  previous := passed.getLast?.or cursor.previous
  location := cursor.location.past passed
  rest := rest

/-- The start of a text. A byte order mark there belongs to no item and is passed. -/
def ofText (text : List Char) : Cursor :=
  match text with
  | '\ufeff' :: rest => between ['\ufeff'] rest
  | _ => between [] text

/-- The end of the text. -/
def toEnd (cursor : Cursor) : Cursor :=
  cursor.move cursor.rest []

@[simp] theorem between_rest (before after : List Char) :
    (between before after).rest = after := rfl

@[simp] theorem move_rest (cursor : Cursor) (passed rest : List Char) :
    (cursor.move passed rest).rest = rest := rfl

/-- Moving over the beginning of what lies behind a boundary reaches the next boundary of
the same text. -/
theorem between_move (before passed rest : List Char) :
    (between before (passed ++ rest)).move passed rest = between (before ++ passed) rest := by
  simp [between, move, Location.past_append]

/-- Moving twice is moving once over both texts. -/
theorem move_move (cursor : Cursor) (first second middle rest : List Char) :
    (cursor.move first middle).move second rest = cursor.move (first ++ second) rest := by
  simp [move, Location.past_append, Option.or_assoc]

end Cursor

end StyleLexer
