import StyleLexer.Proofs.Slices

/-!
# Byte offsets

A text can be read by byte offsets in place of cursors, and an offset can be wrong: it may lie
beyond the end of the text or inside a character, and a difference of two may be negative. Here
every slice and every difference is checked, and `none` stands for one that does not exist. The law
of each says when it exists and what it is.
-/

namespace StyleLexer

/-- The offset lies between two characters of the text, or at one of its ends. -/
def IsBoundary (text : List Char) (offset : Nat) : Prop :=
  ∃ before after, text = before ++ after ∧ byteSize before = offset

/-- The boundaries of a text are the valid positions of its string. -/
theorem isBoundary_iff_isValid {text : String} {offset : Nat} :
    IsBoundary text.toList offset ↔ String.Pos.Raw.IsValid text ⟨offset⟩ := by
  rw [String.Pos.Raw.isValid_iff_exists_append]
  constructor
  · rintro ⟨before, after, whole, rfl⟩
    refine ⟨.ofList before, .ofList after, ?_, ?_⟩
    · rw [← String.ofList_append, ← whole, String.ofList_toList]
    · rw [String.Pos.Raw.ext_iff, String.byteIdx_rawEndPos, utf8ByteSize_ofList]
  · rintro ⟨before, after, rfl, position⟩
    refine ⟨before.toList, after.toList, String.toList_append, ?_⟩
    rw [byteSize_toList]
    exact (congrArg String.Pos.Raw.byteIdx position).symm

/-- A boundary lies no further than the end of the text. -/
theorem IsBoundary.le_byteSize {text : List Char} {offset : Nat} (boundary : IsBoundary text offset) :
    offset ≤ byteSize text := by
  obtain ⟨before, after, rfl, rfl⟩ := boundary
  simp

/-- The longest beginning of a text within a number of bytes is one of its beginnings. -/
theorem Location.within_isPrefix (bytes : Nat) (text : List Char) : within bytes text <+: text := by
  induction text generalizing bytes with
  | nil => exact List.prefix_rfl
  | cons c text inductionHypothesis =>
      rw [within]
      split
      · exact List.cons_prefix_cons.mpr ⟨rfl, inductionHypothesis _⟩
      · exact List.nil_prefix

namespace Offsets

/-- The parts of a text before and behind an offset. There are none if the offset lies beyond the
end or inside a character. -/
def splitAt? (text : List Char) (offset : Nat) : Option (List Char × List Char) :=
  let before := Location.within offset text
  if byteSize before = offset then some (before, text.drop before.length) else none

/-- The text from an offset on. -/
def sliceFrom? (text : List Char) (left : Nat) : Option (List Char) :=
  (splitAt? text left).map Prod.snd

/-- The text up to an offset. -/
def sliceTo? (text : List Char) (right : Nat) : Option (List Char) :=
  (splitAt? text right).map Prod.fst

/-- The text from one offset up to another, which lies no further back. -/
def slice? (text : List Char) (left right : Nat) : Option (List Char) := do
  sliceFrom? (← sliceTo? text right) left

/-- The difference of two numbers, if it is not negative. -/
def subtract? (minuend subtrahend : Nat) : Option Nat :=
  if subtrahend ≤ minuend then some (minuend - subtrahend) else none

/-- The number of bytes in front of the first occurrence of a pattern. -/
def find? (pattern : List Char) : List Char → Option Nat
  | [] => if pattern.isEmpty then some 0 else none
  | c :: text =>
      if pattern.isPrefixOf (c :: text) then some 0
      else (find? pattern text).map (c.utf8Size + ·)

/-- The number of bytes in front of the last occurrence of a character. -/
def findLast? (c : Char) : List Char → Option Nat
  | [] => none
  | d :: text =>
      match findLast? c text with
      | some bytes => some (d.utf8Size + bytes)
      | none => if d = c then some 0 else none

section Slices

variable {text : List Char}

/-- A text splits at its boundaries and nowhere else. -/
theorem splitAt?_eq_some_iff {offset : Nat} {before after : List Char} :
    splitAt? text offset = some (before, after) ↔
      text = before ++ after ∧ byteSize before = offset := by
  unfold splitAt?
  constructor
  · intro split
    simp only [Option.ite_none_right_eq_some, Option.some.injEq, Prod.mk.injEq] at split
    obtain ⟨size, rfl, rfl⟩ := split
    have whole := List.prefix_iff_eq_append.mp (Location.within_isPrefix offset text)
    exact ⟨whole.symm, size⟩
  · rintro ⟨rfl, rfl⟩
    simp [Location.within_byteSize]

/-- The text behind an offset. -/
def Ahead (text : List Char) (offset : Nat) (rest : List Char) : Prop :=
  ∃ before, text = before ++ rest ∧ byteSize before = offset

theorem sliceFrom?_eq_some_iff {left : Nat} {rest : List Char} :
    sliceFrom? text left = some rest ↔ Ahead text left rest := by
  simp [sliceFrom?, splitAt?_eq_some_iff, Ahead]

theorem sliceTo?_eq_some_iff {right : Nat} {before : List Char} :
    sliceTo? text right = some before ↔ ∃ rest, text = before ++ rest ∧ byteSize before = right := by
  simp [sliceTo?, splitAt?_eq_some_iff]

/-- There is a slice between two boundaries if they come in their order. -/
theorem slice?_eq_some_iff {left right : Nat} {part : List Char} :
    slice? text left right = some part ↔ Slice text left right part := by
  simp only [slice?, Option.bind_eq_bind, Option.bind_eq_some_iff, sliceTo?_eq_some_iff,
    sliceFrom?_eq_some_iff]
  constructor
  · rintro ⟨_, ⟨after, rfl, rfl⟩, before, rfl, rfl⟩
    exact ⟨before, after, rfl, rfl, (byteSize_append _ _).symm⟩
  · rintro ⟨before, after, rfl, rfl, rfl⟩
    exact ⟨before ++ part, ⟨after, rfl, byteSize_append _ _⟩, before, rfl, rfl⟩

/-- There is text behind a boundary and nowhere else. -/
theorem isBoundary_iff_exists_ahead {offset : Nat} :
    IsBoundary text offset ↔ ∃ rest, Ahead text offset rest :=
  exists_comm

/-- Whether an offset is a boundary can be found out. -/
instance decidableIsBoundary (offset : Nat) : Decidable (IsBoundary text offset) :=
  decidable_of_iff ((splitAt? text offset).isSome = true) <| by
    simp [Option.isSome_iff_exists, splitAt?_eq_some_iff, IsBoundary]

end Slices

theorem subtract?_eq_some_iff {minuend subtrahend difference : Nat} :
    subtract? minuend subtrahend = some difference ↔ difference + subtrahend = minuend := by
  unfold subtract?
  split
  · rw [Option.some.injEq]
    omega
  · simp only [reduceCtorEq, false_iff]
    omega

namespace Ahead

variable {text rest : List Char} {offset : Nat}

theorem isBoundary (ahead : Ahead text offset rest) : IsBoundary text offset :=
  isBoundary_iff_exists_ahead.mpr ⟨rest, ahead⟩

theorem sliceFrom?_eq (ahead : Ahead text offset rest) : sliceFrom? text offset = some rest :=
  sliceFrom?_eq_some_iff.mpr ahead

/-- Behind a part of the text that is ahead the rest is ahead. -/
theorem append {part : List Char} (ahead : Ahead text offset (part ++ rest)) :
    Ahead text (offset + byteSize part) rest := by
  obtain ⟨before, rfl, rfl⟩ := ahead
  exact ⟨before ++ part, (List.append_assoc _ _ _).symm, byteSize_append _ _⟩

theorem cons {c : Char} (ahead : Ahead text offset (c :: rest)) :
    Ahead text (offset + c.utf8Size) rest := by
  obtain ⟨before, rfl, rfl⟩ := ahead
  exact ⟨before ++ [c], by simp, byteSize_append _ _⟩

/-- A part of the text that is ahead is the slice up to the rest. -/
theorem slice {part : List Char} (ahead : Ahead text offset (part ++ rest)) :
    Slice text offset (offset + byteSize part) part := by
  obtain ⟨before, rfl, rfl⟩ := ahead
  exact ⟨before, rest, (List.append_assoc _ _ _).symm, rfl, rfl⟩

theorem offset_add (ahead : Ahead text offset rest) : offset + byteSize rest = byteSize text := by
  obtain ⟨before, rfl, rfl⟩ := ahead
  exact (byteSize_append _ _).symm

end Ahead

/-- The search for the last occurrence of a character finds it, with no other behind it, or there is
none. -/
theorem findLast?_cases (c : Char) (text : List Char) :
    c ∉ text ∧ findLast? c text = none ∨
      ∃ before after, text = before ++ c :: after ∧ c ∉ after ∧
        findLast? c text = some (byteSize before) := by
  induction text with
  | nil => exact .inl ⟨List.not_mem_nil, rfl⟩
  | cons d text inductionHypothesis =>
      obtain ⟨absent, found⟩ | ⟨before, after, rfl, absent, found⟩ := inductionHypothesis
      · by_cases same : d = c
        · exact .inr ⟨[], text, by rw [same]; rfl, absent, by simp [findLast?, found, same]⟩
        · refine .inl ⟨?_, by simp [findLast?, found, same]⟩
          exact List.not_mem_cons_of_ne_of_not_mem (Ne.symm same) absent
      · exact .inr ⟨d :: before, after, rfl, absent, by simp [findLast?, found]⟩

end Offsets

end StyleLexer
