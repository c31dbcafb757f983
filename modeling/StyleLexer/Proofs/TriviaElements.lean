import Mathlib.Data.List.Basic
import Mathlib.Logic.Relation
import StyleLexer.Proofs.Occurrences
import StyleLexer.Proofs.OffsetTrivia

/-!
# Elements of trivia by their offsets

Where an element of trivia begins and ends can be said of the whole text and two of its byte offsets,
whatever scan has come there. `Trivia.ElementBetween` says it, and the elements behind an offset,
one after the other, are the steps of `Trivia.ElementsBetween`. The main result is
`trivia_skipped_exactly`: skipping goes over such elements as far as there are any, and all the
places between two of them lead to the same end.
-/

namespace StyleLexer

open Offsets

namespace Trivia

/-- Two slashes at this offset have leave to open a comment: nothing stands in front of them, or
whitespace, or a mark behind which a statement can begin. -/
def LineCommentOpens (text : List Char) (start : Nat) : Prop :=
  start = 0 ∨ ∃ left c, Slice text left start [c] ∧
    (Unicode.isWhitespace c = true ∨ c ∈ [';', '\x7b', '\x7d', '\ufeff'])

/-- One element of trivia begins at the first offset of the text and ends at the second. -/
inductive ElementBetween (text : List Char) (start : Nat) : Nat → Prop where
  | blank {c : Char} (stands : Occurs [c] text start) (isBlank : Unicode.isWhitespace c = true) :
      ElementBetween text start (start + c.utf8Size)
  /-- A block comment reaches through the first closing mark behind its opening one. -/
  | blockComment {mark : Nat} (opens : Occurs ['/', '*'] text start)
      (closes : IsLeast {mark | start + 2 ≤ mark ∧ Occurs ['*', '/'] text mark} mark) :
      ElementBetween text start (mark + 2)
  /-- A line comment reaches up to the next line feed, or to the end of the text. -/
  | lineComment {stop : Nat} (opens : Occurs ['/', '/'] text start)
      (leave : LineCommentOpens text start)
      (ends : IsLeast {stop | start ≤ stop ∧ (Occurs ['\n'] text stop ∨ stop = byteSize text)} stop) :
      ElementBetween text start stop

/-- From the first offset to the second there are elements of trivia and nothing else. -/
def ElementsBetween (text : List Char) : Nat → Nat → Prop :=
  Relation.ReflTransGen (ElementBetween text)

/-- A block comment begins at this offset that nothing closes. -/
def LeftOpen (text : List Char) (start : Nat) : Prop :=
  Occurs ['/', '*'] text start ∧ ∀ mark, start + 2 ≤ mark → ¬ Occurs ['*', '/'] text mark

section Marks

variable {text inside : List Char} {start : Nat}

/-- The first closing mark behind an opening one is the one that ends the comment. -/
theorem closes_iff (ahead : Ahead text start ('/' :: '*' :: inside)) {mark : Nat} :
    IsLeast {mark | start + 2 ≤ mark ∧ Occurs ['*', '/'] text mark} mark ↔
      ∃ body rest, splitAtClose? inside = some (body, rest) ∧
        mark + 2 = start + byteSize (Element.blockComment body).source := by
  have behindMark : Ahead text (start + 2) inside := ahead.cons.cons
  rw [behindMark.isLeast_occurs_iff, find?_close]
  simp only [Option.map_eq_some_iff, Prod.exists, byteSize_blockComment]
  constructor
  · rintro ⟨bytes, ⟨body, rest, split, rfl⟩, rfl⟩
    exact ⟨body, rest, split, by omega⟩
  · rintro ⟨body, rest, split, size⟩
    exact ⟨byteSize body, ⟨body, rest, split, rfl⟩, by omega⟩

/-- Nothing closes a comment if it has no closing mark behind its opening one. -/
theorem not_closes_iff (ahead : Ahead text start ('/' :: '*' :: inside)) :
    (∀ mark, start + 2 ≤ mark → ¬ Occurs ['*', '/'] text mark) ↔ splitAtClose? inside = none := by
  have behindMark : Ahead text (start + 2) inside := ahead.cons.cons
  rw [behindMark.forall_not_occurs_iff, find?_close, Option.map_eq_none_iff]

/-- The next line feed, or the end of the text, is where the longest run without one ends. -/
theorem lineEnd_iff (ahead : Ahead text start ('/' :: '/' :: inside)) {stop : Nat} :
    IsLeast {stop | start ≤ stop ∧ (Occurs ['\n'] text stop ∨ stop = byteSize text)} stop ↔
      stop = start + byteSize (Element.lineComment (inside.takeWhile (· != '\n'))).source := by
  rw [ahead.isLeast_occurs_or_end_iff, find?_lineFeed]
  rfl

/-- An element of trivia begins where one is found in the text ahead, and ends where its text does. -/
theorem elementBetween_iff {rest : List Char} {previous : Option Char} {stop : Nat}
    (ahead : Ahead text start rest)
    (front : LineCommentOpens text start ↔ opensLineComment previous = true) :
    ElementBetween text start stop ↔
      ∃ element later, first? previous rest = some (element, later) ∧
        stop = start + byteSize element.source := by
  constructor
  · intro between
    cases between with
    | @blank c occurs isBlank =>
        obtain ⟨later, rfl⟩ := ahead.occurs_iff.mp occurs
        have fits : (Element.blank c).Fits previous later := isBlank
        exact ⟨.blank c, later, first?_source_append fits, rfl⟩
    | blockComment opens closes =>
        obtain ⟨inside, rfl⟩ : ∃ inside, '/' :: '*' :: inside = rest := ahead.occurs_iff.mp opens
        obtain ⟨body, later, split, size⟩ := (closes_iff ahead).mp closes
        exact ⟨_, later, by simp [first?, split], size⟩
    | lineComment opens leave ends =>
        obtain ⟨inside, rfl⟩ : ∃ inside, '/' :: '/' :: inside = rest := ahead.occurs_iff.mp opens
        exact ⟨_, _, if_pos (front.mp leave), (lineEnd_iff ahead).mp ends⟩
  · rintro ⟨element, later, found, rfl⟩
    unfold first? at found
    split at found
    · rename_i inside
      simp only [Option.map_eq_some_iff, Prod.exists, Prod.mk.injEq] at found
      obtain ⟨body, rest, split, rfl, rfl⟩ := found
      have size : start + byteSize (Element.blockComment body).source =
          start + byteSize body + 2 + 2 := by
        rw [byteSize_blockComment, Nat.add_assoc, Nat.add_assoc]
      rw [size]
      exact .blockComment ⟨inside, ahead⟩ ((closes_iff ahead).mpr ⟨body, rest, split, size.symm⟩)
    · rename_i inside
      split at found
      · rename_i opens
        cases found
        exact .lineComment ⟨inside, ahead⟩ (front.mpr opens) ((lineEnd_iff ahead).mpr rfl)
      · cases found
    · split at found
      · rename_i isBlank
        cases found
        exact .blank ⟨_, ahead⟩ isBlank
      · cases found
    · cases found

/-- No element of trivia begins where a block comment is left open. -/
theorem LeftOpen.not_elementBetween (leftOpen : LeftOpen text start) (stop : Nat) :
    ¬ ElementBetween text start stop := by
  obtain ⟨⟨inside, ahead⟩, unclosed⟩ := leftOpen
  intro between
  cases between with
  | blank occurs isBlank =>
      obtain ⟨later, whole⟩ := ahead.occurs_iff.mp occurs
      cases whole
      cases isBlank
  | blockComment opens closes => exact unclosed _ closes.1.1 closes.1.2
  | lineComment opens =>
      obtain ⟨later, whole⟩ := ahead.occurs_iff.mp opens
      cases whole

end Marks

end Trivia

/-- The offset where the trivia at a cursor ends, or that of a block comment that nothing closes. -/
def Cursor.triviaEnd (cursor : Cursor) : Except Nat Nat :=
  if Trivia.opensBlockComment (Trivia.skip cursor).rest then
    .error (Trivia.skip cursor).location.offset
  else .ok (Trivia.skip cursor).location.offset

section Results

variable {cursor : Cursor} {stop : Nat}

theorem Cursor.triviaEnd_eq_ok_iff :
    cursor.triviaEnd = .ok stop ↔ (Trivia.skip cursor).location.offset = stop ∧
      Trivia.opensBlockComment (Trivia.skip cursor).rest = false := by
  unfold triviaEnd
  split <;> simp_all

theorem Cursor.triviaEnd_eq_error_iff :
    cursor.triviaEnd = .error stop ↔ (Trivia.skip cursor).location.offset = stop ∧
      Trivia.opensBlockComment (Trivia.skip cursor).rest = true := by
  unfold triviaEnd
  split <;> simp_all

end Results

namespace Cursor.StandsIn

open Trivia

variable {text : List Char} {cursor : Cursor} {stop : Nat}

/-- A line comment may open at a cursor if the character in front of it allows that. -/
theorem lineCommentOpens_iff (stands : cursor.StandsIn text) :
    LineCommentOpens text cursor.location.offset ↔ opensLineComment cursor.previous = true := by
  obtain ⟨before, after, rfl, rfl⟩ := stands
  rw [LineCommentOpens, between_offset]
  obtain rfl | ⟨front, c, rfl⟩ := List.eq_nil_or_concat' before
  · exact iff_of_true (.inl rfl) rfl
  · have behindSome : byteSize (front ++ [c]) ≠ 0 := by
      have positive := c.utf8Size_pos
      rw [byteSize_append, byteSize_cons]
      omega
    have previous : (between (front ++ [c]) after).previous = some c := List.getLast?_concat
    have allowed : opensLineComment (some c) = true ↔
        Unicode.isWhitespace c = true ∨ c ∈ [';', '\x7b', '\x7d', '\ufeff'] := by
      simp [opensLineComment, or_assoc]
    rw [previous, allowed, or_iff_right behindSome]
    constructor
    · rintro ⟨left, d, ⟨front', after', whole, rfl, size⟩, leave⟩
      rw [← byteSize_append] at size
      have same := eq_of_byteSize_eq whole size.symm
      obtain ⟨_, rfl⟩ := List.concat_inj.mp (by simpa using same)
      exact leave
    · intro leave
      exact ⟨_, c, ⟨front, after, rfl, rfl, (byteSize_append _ _).symm⟩, leave⟩

/-- No element begins at a cursor where none is found. -/
theorem forall_not_elementBetween_iff (stands : cursor.StandsIn text) :
    (∀ stop, ¬ ElementBetween text cursor.location.offset stop) ↔
      first? cursor.previous cursor.rest = none := by
  simp only [elementBetween_iff stands.ahead stands.lineCommentOpens_iff]
  constructor
  · intro nowhere
    rw [Option.eq_none_iff_forall_ne_some]
    rintro ⟨element, rest⟩ found
    exact nowhere _ ⟨element, rest, found, rfl⟩
  · rintro notFound stop ⟨element, rest, found, _⟩
    cases notFound.symm.trans found

/-- Where no element is found, a block comment that opens is left open. -/
theorem leftOpen_iff (stands : cursor.StandsIn text)
    (stops : first? cursor.previous cursor.rest = none) :
    LeftOpen text cursor.location.offset ↔ opensBlockComment cursor.rest = true := by
  have ahead := stands.ahead
  rw [LeftOpen, ahead.occurs_iff, opensBlockComment_iff]
  constructor
  · rintro ⟨⟨inside, whole⟩, _⟩
    exact ⟨inside, whole.symm⟩
  · rintro ⟨inside, whole⟩
    rw [whole] at ahead stops
    have unclosed := (first?_comment_eq_none_iff.trans splitAtClose?_eq_none_iff.symm).mp stops
    exact ⟨⟨inside, whole.symm⟩, (not_closes_iff ahead).mpr unclosed⟩

/-- Skipping goes over elements of trivia. -/
theorem elementsBetween_skip (stands : cursor.StandsIn text) :
    ElementsBetween text cursor.location.offset (Trivia.skip cursor).location.offset := by
  fun_induction Trivia.skip cursor with
  | case1 cursor _ => exact .refl
  | case2 cursor element rest found inductionHypothesis =>
      have first : ElementBetween text cursor.location.offset
          (cursor.move element.source rest).location.offset :=
        (elementBetween_iff stands.ahead stands.lineCommentOpens_iff).mpr
          ⟨element, rest, found, offset_move _ _ _⟩
      exact .head first (inductionHypothesis (stands.move (append_of_first? found).symm))

/-- The places that elements lead to are boundaries, and skipping from there ends at the same
place. -/
theorem exists_of_elementsBetween (stands : cursor.StandsIn text)
    (between : ElementsBetween text cursor.location.offset stop) :
    ∃ later : Cursor, later.StandsIn text ∧ later.location.offset = stop ∧
      Trivia.skip later = Trivia.skip cursor := by
  -- The elements are taken from the front, as skipping does.
  generalize start : cursor.location.offset = offset at between
  induction between using Relation.ReflTransGen.head_induction_on generalizing cursor with
  | refl => exact ⟨cursor, stands, start, rfl⟩
  | head first _ inductionHypothesis =>
      subst start
      obtain ⟨element, rest, found, rfl⟩ :=
        (elementBetween_iff stands.ahead stands.lineCommentOpens_iff).mp first
      rw [skip_of_first? found]
      exact inductionHypothesis (stands.move (append_of_first? found).symm) (offset_move _ _ _)

/-- Skipping ends where elements lead to from which none leads further. -/
theorem offset_skip_eq_iff (stands : cursor.StandsIn text) :
    (Trivia.skip cursor).location.offset = stop ↔
      ElementsBetween text cursor.location.offset stop ∧ ∀ later, ¬ ElementBetween text stop later := by
  constructor
  · rintro rfl
    exact ⟨stands.elementsBetween_skip, stands.skip.forall_not_elementBetween_iff.mpr (first?_skip cursor)⟩
  · rintro ⟨between, last⟩
    obtain ⟨later, standsLater, rfl, same⟩ := stands.exists_of_elementsBetween between
    rw [← same, skip_of_first?_eq_none (standsLater.forall_not_elementBetween_iff.mp last)]

/-- Trivia ends where elements lead to, with neither a further one nor an open comment there. -/
theorem triviaEnd_ok_iff (stands : cursor.StandsIn text) :
    cursor.triviaEnd = .ok stop ↔
      ElementsBetween text cursor.location.offset stop ∧
        (∀ later, ¬ ElementBetween text stop later) ∧ ¬ LeftOpen text stop := by
  have leftOpen := stands.skip.leftOpen_iff (first?_skip cursor)
  rw [triviaEnd_eq_ok_iff]
  constructor
  · rintro ⟨rfl, closed⟩
    obtain ⟨between, last⟩ := stands.offset_skip_eq_iff.mp rfl
    refine ⟨between, last, ?_⟩
    rw [leftOpen, closed]
    exact Bool.false_ne_true
  · rintro ⟨between, last, notOpen⟩
    obtain rfl := stands.offset_skip_eq_iff.mpr ⟨between, last⟩
    rw [leftOpen, Bool.not_eq_true] at notOpen
    exact ⟨rfl, notOpen⟩

/-- Skipping fails where elements lead to a block comment that is left open. -/
theorem triviaEnd_error_iff (stands : cursor.StandsIn text) :
    cursor.triviaEnd = .error stop ↔
      ElementsBetween text cursor.location.offset stop ∧ LeftOpen text stop := by
  have leftOpen := stands.skip.leftOpen_iff (first?_skip cursor)
  rw [triviaEnd_eq_error_iff]
  constructor
  · rintro ⟨rfl, opens⟩
    exact ⟨stands.elementsBetween_skip, leftOpen.mpr opens⟩
  · rintro ⟨between, isOpen⟩
    obtain rfl := stands.offset_skip_eq_iff.mpr ⟨between, isOpen.not_elementBetween⟩
    exact ⟨rfl, leftOpen.mp isOpen⟩

end Cursor.StandsIn

namespace Trivia

/-- What skipping trivia from a cursor in a text comes to. -/
structure SkipsExactly (text : List Char) (cursor : Cursor) : Prop where
  /-- The loop over byte offsets, which nothing bounds, ends with the same result. -/
  ends : triviaEnd? text cursor.location.offset = some cursor.triviaEnd
  ok_iff (stop : Nat) : cursor.triviaEnd = .ok stop ↔
    ElementsBetween text cursor.location.offset stop ∧
      (∀ later, ¬ ElementBetween text stop later) ∧ ¬ LeftOpen text stop
  error_iff (stop : Nat) : cursor.triviaEnd = .error stop ↔
    ElementsBetween text cursor.location.offset stop ∧ LeftOpen text stop
  /-- From every place between two of the elements skipping leads to the same cursor, so whoever
  looks ahead from one of them finds what a scanner finds that goes on from another. -/
  restarts {middle : Nat} (between : ElementsBetween text cursor.location.offset middle) :
    triviaEnd? text middle = triviaEnd? text cursor.location.offset ∧
      ∃ later : Cursor, later.StandsIn text ∧ later.location.offset = middle ∧
        skip later = skip cursor
  idempotent : skip (skip cursor) = skip cursor

end Trivia

/-- Wherever skipping trivia begins, it goes over all the elements there are and over nothing else. -/
theorem trivia_skipped_exactly (before after : List Char) :
    Trivia.SkipsExactly (before ++ after) (.between before after) := by
  have stands : (Cursor.between before after).StandsIn (before ++ after) :=
    ⟨before, after, rfl, rfl⟩
  refine ⟨stands.triviaEnd?_eq, ?_, ?_, ?_, Trivia.skip_skip _⟩
  · intro stop
    exact stands.triviaEnd_ok_iff
  · intro stop
    exact stands.triviaEnd_error_iff
  · intro middle between
    obtain ⟨later, standsLater, rfl, same⟩ := stands.exists_of_elementsBetween between
    refine ⟨?_, later, standsLater, rfl, same⟩
    rw [standsLater.triviaEnd?_eq, stands.triviaEnd?_eq, same]

/-- The star of an opening mark is not the star of a closing one. -/
example : (Cursor.between [] "/*/ a".toList).triviaEnd = .error 0 ∧
    (Cursor.between [] "/*/*/ a".toList).triviaEnd = .ok 6 := by
  decide +kernel

end StyleLexer
