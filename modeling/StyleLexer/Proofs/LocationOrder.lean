import Mathlib.Data.List.DropRight
import Mathlib.Data.Prod.Lex
import Mathlib.Data.Set.Function
import Mathlib.Order.Bounds.Defs
import Mathlib.Order.Monotone.Basic
import StyleLexer.Proofs.OffsetLocations

/-!
# The order of locations

Lines and columns, compared by line first, come in the order of the offsets they stand for.
`Location.lineColumn_lt_past` is why: every character that is passed leads to a later column or to a
later line. `locations_follow_offsets` puts this together with what a line and a column count, and
with the boundary that an offset counts as when it is none itself.
-/

namespace StyleLexer

namespace Location

/-- The line and the column, in the order of reading: by line first, then by column. -/
def lineColumn (location : Location) : Nat ×ₗ Nat :=
  toLex (location.line, location.column)

/-- A line feed leads to a later line and any other character to a later column. -/
theorem lineColumn_lt_advance (location : Location) (c : Char) :
    location.lineColumn < (location.advance c).lineColumn := by
  rw [lineColumn, lineColumn, Prod.Lex.toLex_lt_toLex, advance]
  split
  · exact .inl (Nat.lt_succ_self _)
  · exact .inr ⟨rfl, Nat.lt_succ_self _⟩

/-- No text leads back. -/
theorem lineColumn_le_past (location : Location) (text : List Char) :
    location.lineColumn ≤ (location.past text).lineColumn := by
  induction text generalizing location with
  | nil => exact le_rfl
  | cons c text inductionHypothesis =>
      have first := lineColumn_lt_advance location c
      exact first.le.trans (inductionHypothesis (location.advance c))

/-- A text that has any characters leads further. -/
theorem lineColumn_lt_past (location : Location) {text : List Char} (nonempty : text ≠ []) :
    location.lineColumn < (location.past text).lineColumn := by
  obtain ⟨c, later, rfl⟩ := List.exists_cons_of_ne_nil nonempty
  have first := lineColumn_lt_advance location c
  exact first.trans_le (lineColumn_le_past (location.advance c) later)

/-- The column counts the characters behind the last line feed, or all of them if there is none. -/
theorem column_past (text : List Char) :
    (origin.past text).column = 1 + (text.rtakeWhile (· != '\n')).length := by
  -- A line feed at the end forgets everything in front of it, so the induction is from the right.
  induction text using List.reverseRecOn with
  | nil => rfl
  | append_singleton text c inductionHypothesis =>
      rw [past_append, past_cons, past_nil, advance, List.rtakeWhile_concat]
      by_cases feed : c = '\n'
      · simp [feed]
      · simp [feed, inductionHypothesis, Nat.add_assoc]

/-- The end of the longest beginning within an offset is the last boundary up to that offset, cut
down to the size of the text. -/
theorem isGreatest_within (text : List Char) (offset : Nat) :
    IsGreatest {stop | IsBoundary text stop ∧ stop ≤ min offset (byteSize text)}
      (byteSize (within offset text)) := by
  obtain ⟨rest, whole⟩ := within_isPrefix offset text
  have boundary : IsBoundary text (byteSize (within offset text)) := ⟨_, rest, whole.symm, rfl⟩
  constructor
  · exact ⟨boundary, le_min (byteSize_within_le offset text) boundary.le_byteSize⟩
  · rintro stop ⟨⟨front, after, split, rfl⟩, inReach⟩
    have begins : front <+: text := ⟨after, split.symm⟩
    obtain ⟨more, longer⟩ := prefix_within begins (inReach.trans (Nat.min_le_left _ _))
    rw [← longer, byteSize_append]
    exact Nat.le_add_right _ _

/-- An offset is located where the last boundary up to it is. -/
theorem locate_eq_locate_within (text : List Char) (offset : Nat) :
    locate text offset = { locate text (byteSize (within offset text)) with offset } := by
  obtain ⟨rest, whole⟩ := within_isPrefix offset text
  have boundary := locate_byteSize (within offset text) rest
  rw [whole] at boundary
  rw [boundary]
  rfl

/-- Of two boundaries the one that comes first has the smaller line and column. -/
theorem lineColumn_locate_lt {text : List Char} {first second : Nat} (isFirst : IsBoundary text first)
    (isSecond : IsBoundary text second) (before : first < second) :
    (locate text first).lineColumn < (locate text second).lineColumn := by
  obtain ⟨front, after, rfl, rfl⟩ := isFirst
  obtain ⟨front', after', whole, rfl⟩ := isSecond
  obtain ⟨between, rfl⟩ := isPrefix_of_byteSize_le whole (Nat.le_of_lt before)
  have nonempty : between ≠ [] := by
    rintro rfl
    simp at before
  rw [locate_byteSize, whole, locate_byteSize, past_append]
  exact lineColumn_lt_past _ nonempty

end Location

/-- The byte offsets between two characters of a text, and those of its two ends. -/
def boundaries (text : String) : Set Nat :=
  {offset | String.Pos.Raw.IsValid text ⟨offset⟩}

/-- How lines and columns go with the offsets of a text. -/
structure Location.FollowsOffsets (text : String) : Prop where
  /-- The boundaries come in the order of their lines and columns. -/
  ordered : StrictMonoOn (fun offset => (locate text.toList offset).lineColumn) (boundaries text)
  /-- A line and a column belong to one boundary. -/
  unique {first second : Nat} (isFirst : first ∈ boundaries text)
    (isSecond : second ∈ boundaries text)
    (sameLine : (locate text.toList first).line = (locate text.toList second).line)
    (sameColumn : (locate text.toList first).column = (locate text.toList second).column) :
    first = second
  /-- Any offset has the line and the column of the last boundary up to it. -/
  clamped (offset : Nat) :
    ∃ stop, IsGreatest {stop | stop ∈ boundaries text ∧ stop ≤ min offset text.utf8ByteSize} stop ∧
      locate text.toList offset = { locate text.toList stop with offset }
  /-- At a boundary they count the line feeds in front of it, and the characters behind the last
  line feed. -/
  counted {before after : String} (whole : text = before ++ after) :
    locate text.toList before.utf8ByteSize =
      { offset := before.utf8ByteSize
        line := 1 + before.toList.count '\n'
        column := 1 + (before.toList.rtakeWhile (· != '\n')).length }

/-- Lines and columns go with the offsets of every text. -/
theorem locations_follow_offsets (text : String) : Location.FollowsOffsets text := by
  have ordered : StrictMonoOn (fun offset => (Location.locate text.toList offset).lineColumn)
      (boundaries text) := by
    intro first isFirst second isSecond before
    have boundary := isBoundary_iff_isValid.mpr isFirst
    exact Location.lineColumn_locate_lt boundary (isBoundary_iff_isValid.mpr isSecond) before
  refine ⟨ordered, ?_, ?_, ?_⟩
  · intro first second isFirst isSecond sameLine sameColumn
    apply ordered.injOn isFirst isSecond
    simp only [Location.lineColumn, sameLine, sameColumn]
  · intro offset
    refine ⟨_, ?_, Location.locate_eq_locate_within text.toList offset⟩
    have greatest := Location.isGreatest_within text.toList offset
    rw [byteSize_toList] at greatest
    simpa only [boundaries, Set.mem_ofPred_eq, ← isBoundary_iff_isValid] using greatest
  · rintro before after rfl
    have located := Location.locate_byteSize before.toList after.toList
    rw [← byteSize_toList, String.toList_append, located, Location.mk.injEq]
    refine ⟨?_, ?_, Location.column_past before.toList⟩
    · rw [Location.past_offset]
      exact Nat.zero_add _
    · exact Location.line_past Location.origin before.toList

/-- The end of a text behind a line feed and a character of two bytes, and the offset inside that
character. -/
example : Location.locate "a\né".toList 4 = ⟨4, 2, 2⟩ ∧ Location.locate "a\né".toList 3 = ⟨3, 2, 1⟩ := by
  decide

end StyleLexer
