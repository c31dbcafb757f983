import StyleLexer.Proofs.Readings
import StyleLexer.Proofs.Slices

/-!
# Items cover their text

`Item.Extent` says which bytes of a text an item stands for, delimiters included. A
`Tiling` lays extents one behind the other with nothing but trivia between them, and
`Stretch.tiling` says that the tokens of every stretch have one. `items_cover_text` is
what follows for a whole text: no byte is lost, and none belongs to two items.
-/

namespace StyleLexer

/-- Trivia, and nothing else, stands between two byte offsets of a text. -/
def TriviaBetween (text : List Char) (left right : Nat) : Prop :=
  ∃ before trivia after, text = before ++ trivia ++ after ∧ byteSize before = left ∧
    left + byteSize trivia = right ∧ Trivia.Run after before.getLast? trivia

/-- The bytes from the first offset up to the second are those that an item stands for: its
value alone, its value between two equal quotes, or its value in the braces of an
interpolation. -/
inductive Item.Extent (text : List Char) (item : Item) : Nat → Nat → Prop where
  | bare {left right : Nat} (covers : Slice text left right item.value.toList)
      (inside : item.offset = left) : Extent text item left right
  | quoted {left right : Nat} {quote : Char} (opens : Quoted.isQuote quote = true)
      (covers : Slice text left right ([quote] ++ item.value.toList ++ [quote]))
      (inside : item.offset = left + 1) : Extent text item left right
  | interpolation {left right : Nat}
      (covers : Slice text left right (['#', '\x7b'] ++ item.value.toList ++ ['\x7d']))
      (inside : item.offset = left + 2) : Extent text item left right

/-- A quote is one byte long. -/
theorem Quoted.utf8Size_of_isQuote {quote : Char} (opens : isQuote quote = true) :
    quote.utf8Size = 1 := by
  obtain rfl | rfl := isQuote_iff.mp opens
  · rfl
  · rfl

namespace Item.Extent

variable {text : List Char} {item : Item} {left right : Nat}

/-- The value of an item stands in the text at the offset of the item. -/
theorem slice_value (extent : item.Extent text left right) :
    Slice text item.offset (item.offset + byteSize item.value.toList) item.value.toList := by
  cases extent with
  | bare covers inside =>
      obtain ⟨before, after, whole, start, _⟩ := covers
      exact ⟨before, after, whole, start.trans inside.symm, rfl⟩
  | quoted opens covers inside =>
      have value := covers.middle
      simpa [Quoted.utf8Size_of_isQuote opens, inside] using value
  | interpolation covers inside =>
      have value := covers.middle
      have marks : byteSize ['#', '\x7b'] = 2 := rfl
      rwa [marks, ← inside] at value

/-- The offset of an item lies in its extent. -/
theorem offset_mem (extent : item.Extent text left right) (nonempty : left < right) :
    left ≤ item.offset ∧ item.offset < right := by
  cases extent with
  | bare covers inside => omega
  | quoted opens covers inside =>
      obtain ⟨_, _, _, _, size⟩ := covers
      simp only [byteSize_append, byteSize_cons, Quoted.utf8Size_of_isQuote opens] at size
      omega
  | interpolation covers inside =>
      obtain ⟨_, _, _, _, size⟩ := covers
      have marks : byteSize ['#', '\x7b'] = 2 := rfl
      have mark : byteSize ['\x7d'] = 1 := rfl
      rw [byteSize_append, byteSize_append, marks, mark] at size
      omega

end Item.Extent

/-- The item of a token stands for the text of its lexeme. -/
theorem Token.extent_item {text rest : List Char} (token : Token) (fits : token.lexeme.Fits rest)
    (covers : Slice text token.offset token.finish token.lexeme.source) (place : Place)
    (later : List Token) :
    (token.item place later).Extent text token.offset token.finish := by
  obtain ⟨lexeme, offset⟩ := token
  cases lexeme with
  | interpolation body =>
      refine .interpolation ?_ rfl
      simpa [item, Lexeme.value, Lexeme.source] using covers
  | quoted quote body =>
      refine .quoted fits.1 ?_ rfl
      simpa [item, Lexeme.value, Lexeme.source] using covers
  | _ =>
      refine .bare ?_ rfl
      simpa [item, Lexeme.value] using covers

/-- An item with the bytes that it stands for. -/
structure Tile where
  item : Item
  left : Nat
  right : Nat

/-- Tiles one behind the other, with nothing but trivia in front of each. -/
inductive Tiling (text : List Char) : Nat → List Tile → Nat → Prop where
  | nil {start : Nat} : Tiling text start [] start
  | cons {start finish : Nat} {tile : Tile} {tiles : List Tile}
      (gap : TriviaBetween text start tile.left)
      (extent : tile.item.Extent text tile.left tile.right)
      (nonempty : tile.left < tile.right)
      (later : Tiling text tile.right tiles finish) : Tiling text start (tile :: tiles) finish

/-- The trivia between two offsets ends no earlier than it begins. -/
theorem TriviaBetween.left_le_right {text : List Char} {left right : Nat}
    (gap : TriviaBetween text left right) : left ≤ right := by
  obtain ⟨_, _, _, _, _, size, _⟩ := gap
  omega

namespace Tiling

variable {text : List Char} {start finish : Nat} {tiles : List Tile}

theorem start_le_finish (tiling : Tiling text start tiles finish) : start ≤ finish := by
  induction tiling with
  | nil => exact Nat.le_refl _
  | cons gap extent nonempty later inductionHypothesis =>
      have before := gap.left_le_right
      omega

/-- Every tile lies between the ends of its tiling. -/
theorem bounds (tiling : Tiling text start tiles finish) {tile : Tile} (member : tile ∈ tiles) :
    start ≤ tile.left ∧ tile.left < tile.right ∧ tile.right ≤ finish ∧
      tile.item.Extent text tile.left tile.right := by
  induction tiling with
  | nil => cases member
  | cons gap extent nonempty later inductionHypothesis =>
      have before := gap.left_le_right
      rcases List.mem_cons.mp member with rfl | behind
      · exact ⟨before, nonempty, later.start_le_finish, extent⟩
      · obtain ⟨first, rest⟩ := inductionHypothesis behind
        exact ⟨by omega, rest⟩

/-- A tile ends before the next one begins, so no two tiles have a byte in common. -/
theorem ordered (tiling : Tiling text start tiles finish) :
    tiles.Pairwise fun first second => first.right ≤ second.left := by
  induction tiling with
  | nil => exact .nil
  | cons gap extent nonempty later inductionHypothesis =>
      apply List.Pairwise.cons
      · intro tile member
        exact (later.bounds member).1
      · exact inductionHypothesis

/-- Every item of a tiling begins behind those before it, and none begins behind the last
tile. -/
theorem increasing (tiling : Tiling text start tiles finish) :
    (tiles.map Tile.item).Pairwise (fun first second => first.offset < second.offset) ∧
      ∀ tile ∈ tiles, tile.item.offset < finish := by
  constructor
  · rw [List.pairwise_map]
    apply tiling.ordered.imp_of_mem
    intro first second member member' apart
    obtain ⟨_, nonempty, _, extent⟩ := tiling.bounds member
    obtain ⟨_, nonempty', _, extent'⟩ := tiling.bounds member'
    have inside := (extent.offset_mem nonempty).2
    have inside' := (extent'.offset_mem nonempty').1
    omega
  · intro tile member
    obtain ⟨_, nonempty, behind, extent⟩ := tiling.bounds member
    exact Nat.lt_of_lt_of_le (extent.offset_mem nonempty).2 behind

/-- A byte between the ends of a tiling belongs to a tile, or to trivia that meets none. -/
theorem covers (tiling : Tiling text start tiles finish) {byte : Nat} (first : start ≤ byte)
    (last : byte < finish) :
    (∃ tile ∈ tiles, tile.left ≤ byte ∧ byte < tile.right) ∨
      ∃ left right, TriviaBetween text left right ∧ start ≤ left ∧ left ≤ byte ∧ byte < right ∧
        ∀ tile ∈ tiles, tile.right ≤ left ∨ right ≤ tile.left := by
  induction tiling with
  | nil => omega
  | @cons start finish tile tiles gap extent nonempty later inductionHypothesis =>
      by_cases inGap : byte < tile.left
      · refine .inr ⟨start, tile.left, gap, Nat.le_refl _, first, inGap, ?_⟩
        intro other member
        rcases List.mem_cons.mp member with rfl | behind
        · exact .inr (Nat.le_refl _)
        · have bounds := later.bounds behind
          exact .inr (by omega)
      · by_cases inTile : byte < tile.right
        · exact .inl ⟨tile, List.mem_cons_self, by omega, inTile⟩
        · rcases inductionHypothesis (by omega) last with found | found
          · obtain ⟨other, member, inside⟩ := found
            exact .inl ⟨other, List.mem_cons_of_mem _ member, inside⟩
          · obtain ⟨left, right, trivia, behind, inside, outside, apart⟩ := found
            have before := gap.left_le_right
            refine .inr ⟨left, right, trivia, by omega, inside, outside, ?_⟩
            intro other member
            rcases List.mem_cons.mp member with rfl | later
            · exact .inl behind
            · exact apart other later

end Tiling

/-- The tiles of tokens that follow each other from `place` on: each carries the item of its
token and begins and ends where the lexeme does. -/
def Token.tiles : Place → List Token → List Tile
  | _, [] => []
  | place, token :: later =>
      let item := token.item place later
      ⟨item, token.offset, token.finish⟩ :: tiles (.following item.kind item.value) later

/-- The tiles of tokens carry their items. -/
theorem Token.map_item_tiles (place : Place) (tokens : List Token) :
    (tiles place tokens).map Tile.item = items place tokens := by
  induction tokens generalizing place with
  | nil => rfl
  | cons token tokens inductionHypothesis => exact congrArg _ (inductionHypothesis _)

/-- The tiles of tokens begin where the tokens do. -/
theorem Token.map_left_tiles (place : Place) (tokens : List Token) :
    (tiles place tokens).map Tile.left = tokens.map Token.offset := by
  induction tokens generalizing place with
  | nil => rfl
  | cons token tokens inductionHypothesis => exact congrArg _ (inductionHypothesis _)

/-- The tokens of a stretch stand in the text one behind the other, with nothing but trivia
in front of each. -/
theorem Stretch.tiling {behind before passed : List Char} {tokens : List Token}
    (stretch : Stretch behind before passed tokens) (place : Place) :
    Tiling (before ++ passed ++ behind) (byteSize before) (Token.tiles place tokens)
      (byteSize (before ++ passed)) := by
  induction stretch generalizing place with
  | empty =>
      rw [List.append_nil]
      exact .nil
  | @more before trivia passed lexeme tokens run _ fits _ inductionHypothesis =>
      let token : Token := ⟨lexeme, byteSize (before ++ trivia)⟩
      let item := token.item place tokens
      have tiling := inductionHypothesis (.following item.kind item.value)
      have nonempty : 0 < byteSize lexeme.source :=
        Nat.pos_of_ne_zero fun empty => Lexeme.source_ne_nil fits (byteSize_eq_zero_iff.mp empty)
      refine .cons ?_ ?_ (Nat.lt_add_of_pos_right nonempty) ?_
      · exact ⟨before, trivia, lexeme.source ++ (passed ++ behind), by simp, rfl,
          (byteSize_append before trivia).symm, run⟩
      · have covers : Slice (before ++ (trivia ++ lexeme.source ++ passed) ++ behind)
            token.offset token.finish lexeme.source :=
          ⟨before ++ trivia, passed ++ behind, by simp, rfl, rfl⟩
        exact token.extent_item fits covers place tokens
      · have finish : byteSize (before ++ trivia ++ lexeme.source) = token.finish :=
          byteSize_append _ _
        rw [finish] at tiling
        simpa only [List.append_assoc] using tiling

/-- The offset where the items of a text begin: behind the three bytes of a byte order mark,
if there is one. -/
def textStart (text : List Char) : Nat :=
  if text.head? = some '\ufeff' then 3 else 0

theorem byteSize_leadingMark (text : List Char) : byteSize (leadingMark text) = textStart text := by
  unfold textStart
  by_cases marked : text.head? = some '\ufeff'
  · obtain ⟨rest, rfl⟩ := List.head?_eq_some_iff.mp marked
    rfl
  · rw [if_neg marked, leadingMark_of_head? marked]
    rfl

/-- The items of a stream cover a text: the tiles carry all of them but the last one. -/
structure Coverage (text : String) (tiles : List Tile) (last : Item) : Prop where
  /-- No item before the last one ends the stream. -/
  goesOn : ∀ tile ∈ tiles, tile.item.kind.isEnding = false
  /-- Nothing but trivia stands in front of the first tile, between two tiles, and between the
  last tile and the end. -/
  tiling : ∃ finish, Tiling text.toList (textStart text.toList) tiles finish ∧
    TriviaBetween text.toList finish last.offset
  /-- The last item stands at the end of the text, or at a fault in front of it. -/
  ending :
    last.kind = .endOfText ∧ last.value = "" ∧ last.offset = text.utf8ByteSize ∨
      last.kind = .failure ∧ last.offset < text.utf8ByteSize
  /-- The bytes at the offset of an item are its value. -/
  values : ∀ tile ∈ tiles,
    text.toByteArray.extract tile.item.offset
      (tile.item.offset + tile.item.value.utf8ByteSize) = tile.item.value.toByteArray
  /-- No byte belongs to two tiles. -/
  apart : tiles.Pairwise fun first second => first.right ≤ second.left
  /-- A byte in front of the end that belongs to no tile belongs to trivia. -/
  complete : ∀ byte, textStart text.toList ≤ byte → byte < last.offset →
    (∃ tile ∈ tiles, tile.left ≤ byte ∧ byte < tile.right) ∨
      ∃ left right, TriviaBetween text.toList left right ∧ left ≤ byte ∧ byte < right ∧
        ∀ tile ∈ tiles, tile.right ≤ left ∨ right ≤ tile.left
  /-- Every item begins behind those before it. -/
  increasing : (tiles.map Tile.item ++ [last]).Pairwise fun first second =>
    first.offset < second.offset

/-- A tiling with trivia behind it covers the text up to the last item. -/
theorem Coverage.of_tiling {text : String} {tiles : List Tile} {last : Item} {finish : Nat}
    (goesOn : ∀ tile ∈ tiles, tile.item.kind.isEnding = false)
    (tiling : Tiling text.toList (textStart text.toList) tiles finish)
    (gap : TriviaBetween text.toList finish last.offset)
    (ending : last.kind = .endOfText ∧ last.value = "" ∧ last.offset = text.utf8ByteSize ∨
      last.kind = .failure ∧ last.offset < text.utf8ByteSize) : Coverage text tiles last where
  goesOn := goesOn
  tiling := ⟨finish, tiling, gap⟩
  ending := ending
  values := by
    intro tile member
    have value := (tiling.bounds member).2.2.2.slice_value.bytes
    rwa [byteSize_toList, String.ofList_toList, String.ofList_toList] at value
  apart := tiling.ordered
  complete := by
    intro byte first before
    by_cases inTiling : byte < finish
    · rcases tiling.covers first inTiling with tile | ⟨left, right, between, _, inside⟩
      · exact .inl tile
      · exact .inr ⟨left, right, between, inside⟩
    · refine .inr ⟨finish, last.offset, gap, by omega, before, ?_⟩
      intro tile member
      exact .inl (tiling.bounds member).2.2.1
  increasing := by
    rw [List.pairwise_append]
    refine ⟨tiling.increasing.1, List.pairwise_singleton _ _, ?_⟩
    intro item member item' isLast
    obtain ⟨tile, inside, rfl⟩ := List.mem_map.mp member
    obtain rfl := List.mem_singleton.mp isLast
    exact Nat.lt_of_lt_of_le (tiling.increasing.2 tile inside) gap.left_le_right

/-- The item that ends a stream stands where reading stops. -/
@[simp] theorem Cursor.offset_closing (cursor : Cursor) (cause : Option Cause) :
    (cursor.closing cause).offset = cursor.location.offset := by
  cases cause with
  | none => rfl
  | some cause => rfl

/-- Reading stops at the end of the text, or at a fault in front of it. -/
theorem Cursor.closing_between {before after : List Char} {cause : Option Cause}
    (stops : (between before after).finding = .stop cause) :
    let last := (between before after).closing cause
    last.kind = .endOfText ∧ last.value = "" ∧ last.offset = byteSize (before ++ after) ∨
      last.kind = .failure ∧ last.offset < byteSize (before ++ after) := by
  cases cause with
  | none =>
      have empty : after = [] := finding_eq_stop_none_iff.mp stops
      exact .inl ⟨rfl, rfl, by simp [empty]⟩
  | some cause =>
      have nonempty : after ≠ [] := by
        intro empty
        cases stops.symm.trans (finding_eq_stop_none_iff.mpr empty)
      have positive := Nat.pos_of_ne_zero (mt byteSize_eq_zero_iff.mp nonempty)
      refine .inr ⟨rfl, ?_⟩
      rw [offset_closing, between_offset, byteSize_append]
      omega

/-- The tiles of the tokens that a text is read over cover it. -/
theorem Reading.coverage {text : String} {passed trivia rest : List Char} {tokens : List Token}
    {cause : Option Cause} (reading : Reading text.toList passed trivia rest tokens cause) :
    Coverage text (Token.tiles .initial tokens)
      ((Cursor.between (leadingMark text.toList ++ passed ++ trivia) rest).closing cause) := by
  have tiling := reading.stretch.tiling .initial
  rw [← reading.whole, byteSize_leadingMark] at tiling
  have whole : text.toList = leadingMark text.toList ++ passed ++ trivia ++ rest := by
    rw [List.append_assoc _ trivia]
    exact reading.whole
  refine .of_tiling ?_ tiling ?_ ?_
  · intro tile member
    have carried : tile.item ∈ Token.items .initial tokens :=
      Token.map_item_tiles .initial tokens ▸ List.mem_map_of_mem member
    exact Token.isEnding_of_mem_items carried
  · rw [Cursor.offset_closing, Cursor.between_offset]
    exact ⟨_, trivia, rest, whole, rfl, (byteSize_append _ _).symm, reading.run⟩
  · have closing := Cursor.closing_between reading.stops
    rwa [← whole, byteSize_toList] at closing

/-- The items of a text cover it. -/
theorem items_cover_text (text : String) :
    ∃ tiles last, (ItemStream.ofText text).items = tiles.map Tile.item ++ [last] ∧
      Coverage text tiles last := by
  obtain ⟨passed, trivia, rest, tokens, cause, reading⟩ := exists_reading text.toList
  refine ⟨_, _, ?_, reading.coverage⟩
  rw [Token.map_item_tiles]
  exact reading.items_eq

end StyleLexer
