import Mathlib.Order.Bounds.Basic
import StyleLexer.Proofs.OffsetLocations

/-!
# Where a mark occurs

A mark may occur at many offsets of a text. The search for it comes to the least of them, and to
none only if there is none (`Offsets.find?_cases`). The other laws carry this over from the text
ahead of an offset to the offsets of the whole text.
-/

namespace StyleLexer.Offsets

/-- The mark stands in the text at this byte offset. -/
def Occurs (mark text : List Char) (offset : Nat) : Prop :=
  ∃ rest, Ahead text offset (mark ++ rest)

variable {mark text rest : List Char} {start stop : Nat}

/-- A mark stands in front of the text ahead if it occurs there. -/
theorem Ahead.occurs_iff (ahead : Ahead text start rest) : Occurs mark text start ↔ mark <+: rest := by
  constructor
  · rintro ⟨later, aheadOfMark⟩
    have same := aheadOfMark.sliceFrom?_eq.symm.trans ahead.sliceFrom?_eq
    exact ⟨later, Option.some.inj same⟩
  · rintro ⟨later, rfl⟩
    exact ⟨later, ahead⟩

/-- From an offset on a mark occurs where it occurs in the text ahead. -/
theorem Ahead.occurs_from_iff (ahead : Ahead text start rest) {offset : Nat} :
    start ≤ offset ∧ Occurs mark text offset ↔
      ∃ bytes, offset = start + bytes ∧ Occurs mark rest bytes := by
  obtain ⟨before, rfl, rfl⟩ := ahead
  constructor
  · rintro ⟨further, later, front, whole, rfl⟩
    obtain ⟨between, rfl⟩ := Location.isPrefix_of_byteSize_le whole further
    rw [List.append_assoc] at whole
    exact ⟨_, byteSize_append _ _, later, between, List.append_cancel_left whole, rfl⟩
  · rintro ⟨_, rfl, later, between, rfl, rfl⟩
    refine ⟨Nat.le_add_right _ _, later, before ++ between, ?_, byteSize_append _ _⟩
    rw [List.append_assoc]

/-- A mark occurs at the front of a text, or behind its first character. -/
theorem occurs_cons_iff {c : Char} {offset : Nat} :
    Occurs mark (c :: text) offset ↔
      offset = 0 ∧ mark <+: c :: text ∨ ∃ bytes, offset = c.utf8Size + bytes ∧ Occurs mark text bytes := by
  have behind : Ahead (c :: text) c.utf8Size text := ⟨[c], rfl, rfl⟩
  have here : Ahead (c :: text) 0 (c :: text) := ⟨[], rfl, rfl⟩
  rw [← behind.occurs_from_iff]
  constructor
  · rintro ⟨later, front, whole, rfl⟩
    cases front with
    | nil => exact .inl ⟨rfl, later, whole.symm⟩
    | cons d front =>
        obtain ⟨rfl, _⟩ := List.cons.inj whole
        exact .inr ⟨Nat.le_add_right _ _, later, _, whole, rfl⟩
  · rintro (⟨rfl, begins⟩ | ⟨_, occurs⟩)
    · exact here.occurs_iff.mpr begins
    · exact occurs

/-- The search for a mark finds the first place where it occurs, or it occurs nowhere. -/
theorem find?_cases (mark text : List Char) :
    (find? mark text = none ∧ ∀ offset, ¬ Occurs mark text offset) ∨
      ∃ bytes, find? mark text = some bytes ∧ IsLeast {offset | Occurs mark text offset} bytes := by
  induction text with
  | nil =>
      cases mark with
      | nil => exact .inr ⟨0, rfl, ⟨[], [], rfl, rfl⟩, fun _ _ => Nat.zero_le _⟩
      | cons d mark =>
          refine .inl ⟨rfl, ?_⟩
          rintro offset ⟨later, front, whole, _⟩
          simp at whole
  | cons c text inductionHypothesis =>
      by_cases begins : mark <+: c :: text
      · refine .inr ⟨0, ?_, occurs_cons_iff.mpr (.inl ⟨rfl, begins⟩), fun _ _ => Nat.zero_le _⟩
        rw [find?, if_pos (List.isPrefixOf_iff_prefix.mpr begins)]
      · have search : find? mark (c :: text) = (find? mark text).map (c.utf8Size + ·) := by
          rw [find?, if_neg fun found => begins (List.isPrefixOf_iff_prefix.mp found)]
        obtain ⟨notFound, nowhere⟩ | ⟨bytes, found, occurs, least⟩ := inductionHypothesis
        · refine .inl ⟨by rw [search, notFound]; rfl, ?_⟩
          intro offset occurs
          obtain ⟨_, here⟩ | ⟨bytes, _, behind⟩ := occurs_cons_iff.mp occurs
          · exact begins here
          · exact nowhere bytes behind
        · refine .inr ⟨c.utf8Size + bytes, by rw [search, found]; rfl, ?_, ?_⟩
          · exact occurs_cons_iff.mpr (.inr ⟨bytes, rfl, occurs⟩)
          · intro offset occurs
            obtain ⟨_, here⟩ | ⟨further, rfl, behind⟩ := occurs_cons_iff.mp occurs
            · exact absurd here begins
            · exact Nat.add_le_add_left (least behind) _

namespace Ahead

/-- The first occurrence from an offset on is the one that is found in the text ahead. -/
theorem isLeast_occurs_iff (ahead : Ahead text start rest) :
    IsLeast {offset | start ≤ offset ∧ Occurs mark text offset} stop ↔
      ∃ bytes, find? mark rest = some bytes ∧ stop = start + bytes := by
  obtain ⟨notFound, nowhere⟩ | ⟨bytes, found, occurs, least⟩ := find?_cases mark rest
  · rw [notFound]
    constructor
    · rintro ⟨occurs, _⟩
      obtain ⟨bytes, _, behind⟩ := ahead.occurs_from_iff.mp occurs
      exact absurd behind (nowhere bytes)
    · rintro ⟨bytes, found, _⟩
      cases found
  · have first : IsLeast {offset | start ≤ offset ∧ Occurs mark text offset} (start + bytes) := by
      refine ⟨ahead.occurs_from_iff.mpr ⟨bytes, rfl, occurs⟩, ?_⟩
      intro offset further
      obtain ⟨bytes', rfl, behind⟩ := ahead.occurs_from_iff.mp further
      exact Nat.add_le_add_left (least behind) start
    rw [found]
    constructor
    · intro isFirst
      exact ⟨bytes, rfl, isFirst.unique first⟩
    · rintro ⟨bytes', found', rfl⟩
      cases found'
      exact first

/-- A mark that is not found in the text ahead does not occur from there on. -/
theorem forall_not_occurs_iff (ahead : Ahead text start rest) :
    (∀ offset, start ≤ offset → ¬ Occurs mark text offset) ↔ find? mark rest = none := by
  obtain ⟨notFound, nowhere⟩ | ⟨bytes, found, occurs, _⟩ := find?_cases mark rest
  · refine iff_of_true ?_ notFound
    intro offset further occurs
    obtain ⟨bytes, _, behind⟩ := ahead.occurs_from_iff.mp ⟨further, occurs⟩
    exact nowhere bytes behind
  · refine iff_of_false ?_ (by simp [found])
    intro nowhere
    obtain ⟨further, there⟩ := ahead.occurs_from_iff.mpr ⟨bytes, rfl, occurs⟩
    exact nowhere _ further there

/-- Up to its first occurrence, or up to the end of the text, a mark leaves the part in front of
which it is found in the text ahead. -/
theorem isLeast_occurs_or_end_iff (ahead : Ahead text start rest) :
    IsLeast {offset | start ≤ offset ∧ (Occurs mark text offset ∨ offset = byteSize text)} stop ↔
      stop = start + (find? mark rest).getD (byteSize rest) := by
  have whole := ahead.offset_add
  have first : IsLeast {offset | start ≤ offset ∧ (Occurs mark text offset ∨ offset = byteSize text)}
      (start + (find? mark rest).getD (byteSize rest)) := by
    obtain ⟨notFound, nowhere⟩ | ⟨bytes, found, occurs, least⟩ := find?_cases mark rest
    · rw [notFound, Option.getD_none, whole]
      refine ⟨⟨whole ▸ Nat.le_add_right _ _, .inr rfl⟩, ?_⟩
      rintro offset ⟨further, occurs | rfl⟩
      · exact absurd occurs (ahead.forall_not_occurs_iff.mpr notFound offset further)
      · exact le_rfl
    · rw [found, Option.getD_some]
      obtain ⟨further, there⟩ := ahead.occurs_from_iff.mpr ⟨bytes, rfl, occurs⟩
      refine ⟨⟨further, .inl there⟩, ?_⟩
      rintro offset ⟨further, occurs | rfl⟩
      · exact (ahead.isLeast_occurs_iff.mpr ⟨bytes, found, rfl⟩).2 ⟨further, occurs⟩
      · obtain ⟨later, aheadOfMark⟩ := there
        exact aheadOfMark.isBoundary.le_byteSize
  constructor
  · intro isFirst
    exact isFirst.unique first
  · rintro rfl
    exact first

end Ahead

end StyleLexer.Offsets
