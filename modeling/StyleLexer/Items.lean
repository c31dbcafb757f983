import StyleLexer.Scanner

/-!
# The items of a text

Reading a whole stylesheet at once: all of its items without the end of the text, or the
fault that stops them.
-/

namespace StyleLexer

/-- The items from here to the end of the text, or the first fault. -/
def Scanner.items (scanner : Scanner) : Except Fault (List Item) :=
  match _handed : scanner.next with
  | (item, after) =>
      match _faultless : item.fault with
      | some fault => .error fault
      | none =>
          if _atEnd : item.kind = .endOfText then .ok []
          else
            match after.items with
            | .ok later => .ok (item :: later)
            | .error fault => .error fault
termination_by scanner.cursor.rest.length
decreasing_by
  exact Scanner.length_of_next _handed (Scanner.kind_of_next _handed _faultless _atEnd)

/-- The items of a text, without its end, or the first fault. -/
def items (text : String) : Except Fault (List Item) :=
  (Scanner.ofText text.toList).items

end StyleLexer
