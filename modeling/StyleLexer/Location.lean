/-!
# Locations in a text

An offset counts the bytes of the UTF-8 form, a column counts characters, and only a line
feed ends a line; lines and columns start at one. `Location.past` follows a text character
by character, and `Location.locate` resolves an arbitrary byte offset of a text.
-/

namespace StyleLexer

/-- The number of bytes in the UTF-8 form of a text. -/
def byteSize : List Char → Nat
  | [] => 0
  | c :: text => c.utf8Size + byteSize text

@[simp] theorem byteSize_nil : byteSize [] = 0 := rfl

@[simp] theorem byteSize_cons (c : Char) (text : List Char) :
    byteSize (c :: text) = c.utf8Size + byteSize text := rfl

@[simp] theorem byteSize_append (left right : List Char) :
    byteSize (left ++ right) = byteSize left + byteSize right := by
  induction left with
  | nil => simp
  | cons c left inductionHypothesis => simp [inductionHypothesis, Nat.add_assoc]

/-- The string of a text has as many bytes as the text. -/
theorem utf8ByteSize_ofList (text : List Char) :
    (String.ofList text).utf8ByteSize = byteSize text := by
  induction text with
  | nil => simp
  | cons c text inductionHypothesis =>
      have split : String.ofList (c :: text) = String.singleton c ++ String.ofList text := by
        rw [String.singleton_eq_ofList, ← String.ofList_append]
        rfl
      simp [split, inductionHypothesis]

/-- A place in a text: its byte offset, its line and its column. -/
structure Location where
  offset : Nat
  line : Nat
  column : Nat
deriving DecidableEq, Repr

namespace Location

/-- The start of a text. -/
def origin : Location := ⟨0, 1, 1⟩

/-- The location right after a character that stands at `location`. -/
def advance (location : Location) (c : Char) : Location :=
  if c = '\n' then ⟨location.offset + c.utf8Size, location.line + 1, 1⟩
  else ⟨location.offset + c.utf8Size, location.line, location.column + 1⟩

/-- The location right after a text that starts at `location`. -/
def past (location : Location) (text : List Char) : Location :=
  text.foldl advance location

@[simp] theorem past_nil (location : Location) : location.past [] = location := rfl

@[simp] theorem past_cons (location : Location) (c : Char) (text : List Char) :
    location.past (c :: text) = (location.advance c).past text := rfl

/-- Texts are passed one after the other. -/
theorem past_append (location : Location) (left right : List Char) :
    location.past (left ++ right) = (location.past left).past right :=
  List.foldl_append

@[simp] theorem advance_offset (location : Location) (c : Char) :
    (location.advance c).offset = location.offset + c.utf8Size := by
  unfold advance
  split <;> rfl

/-- Passing a text adds its size to the offset. -/
@[simp] theorem past_offset (location : Location) (text : List Char) :
    (location.past text).offset = location.offset + byteSize text := by
  induction text generalizing location with
  | nil => simp
  | cons c text inductionHypothesis => simp [inductionHypothesis, Nat.add_assoc]

/-- The longest beginning of a text that takes no more than the given number of bytes. -/
def within : Nat → List Char → List Char
  | _, [] => []
  | bytes, c :: text =>
      if c.utf8Size ≤ bytes then c :: within (bytes - c.utf8Size) text else []

/-- The line and column of a byte offset. An offset beyond the end or inside a character
counts as the nearest boundary before it; the offset itself is kept as given. -/
def locate (text : List Char) (offset : Nat) : Location :=
  { origin.past (within offset text) with offset }

/-- A whole beginning of a text is found again from its size. -/
theorem within_byteSize (before after : List Char) :
    within (byteSize before) (before ++ after) = before := by
  induction before with
  | nil =>
      cases after with
      | nil => rfl
      | cons c after =>
          have positive := c.utf8Size_pos
          simp only [byteSize_nil, List.nil_append, within]
          rw [if_neg (by omega)]
  | cons c before inductionHypothesis =>
      simp [within, inductionHypothesis]

/-- Locating the boundary behind `before` agrees with following `before` from the start. -/
theorem locate_byteSize (before after : List Char) :
    locate (before ++ after) (byteSize before) = origin.past before := by
  have size := past_offset origin before
  simp only [locate, within_byteSize]
  rw [show origin.offset = 0 from rfl, Nat.zero_add] at size
  rw [← size]

end Location

end StyleLexer
