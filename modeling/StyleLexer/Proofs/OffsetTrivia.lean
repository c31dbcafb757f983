import Mathlib.Data.List.TakeWhile
import StyleLexer.Lexeme.Kind
import StyleLexer.Proofs.OffsetScans
import StyleLexer.Proofs.Origins

/-!
# Trivia by byte offsets

Comments and whitespace, passed from one byte offset to the next, and what can be said about the text
behind them. As with the other scans `none` stands for a slice that does not exist and for a loop
that does not end. `Offsets.triviaEnd?_eq` says that neither comes about at a boundary, and that
trivia ends where the cursor that skips it stops.
-/

namespace StyleLexer

/-- A block comment opens with its two marks. -/
theorem Trivia.opensBlockComment_iff {text : List Char} :
    opensBlockComment text = true ↔ ∃ inside, text = '/' :: '*' :: inside := by
  unfold opensBlockComment
  split
  · rename_i inside
    exact iff_of_true rfl ⟨inside, rfl⟩
  · rename_i noMark
    refine iff_of_false Bool.false_ne_true ?_
    rintro ⟨inside, whole⟩
    exact noMark inside whole

/-- The marks of a block comment take four bytes. -/
theorem Trivia.byteSize_blockComment (body : List Char) :
    byteSize (Element.blockComment body).source = byteSize body + 4 := by
  have slash : '/'.utf8Size = 1 := rfl
  have star : '*'.utf8Size = 1 := rfl
  simp only [Element.source, byteSize_append, byteSize_cons, byteSize_nil, slash, star]
  omega

namespace Offsets

open Loop

/-- Two slashes here open a comment. The text in front of them tells. -/
def opensLineComment? (text : List Char) (pos : Nat) : Option Bool := do
  let before ← sliceTo? text pos
  pure (Trivia.opensLineComment before.getLast?)

/-- Passes an element of trivia. Where there is none trivia ends, and so it does at a block comment that
nothing closes. -/
def triviaTurn? (text : List Char) (pos : Nat) : Option (Except Nat Nat ⊕ Nat) := do
  let rest ← sliceFrom? text pos
  if ['/', '*'].isPrefixOf rest then
    let inside ← sliceFrom? rest 2
    match find? ['*', '/'] inside with
    | some bytes => again (pos + bytes + 4)
    | none => done (.error pos)
  else
    let opens ← if ['/', '/'].isPrefixOf rest then opensLineComment? text pos else pure false
    if opens then again (pos + (find? ['\n'] rest).getD (byteSize rest))
    else
      match rest.head?.filter Unicode.isWhitespace with
      | some c => again (pos + c.utf8Size)
      | none => done (.ok pos)

/-- The offset behind the trivia that begins here, or the offset of a block comment that nothing
closes. -/
noncomputable def triviaEnd? (text : List Char) : Nat → Option (Except Nat Nat) :=
  loop? (triviaTurn? text)

/-- The next character that is no trivia, and its offset, if there is one and no comment is left
open in front of it. -/
noncomputable def nextSignificant? (text : List Char) (pos : Nat) : Option (Option (Nat × Char)) := do
  match ← triviaEnd? text pos with
  | .ok stop =>
      let next ← peek? text stop
      pure (next.map fun c => (stop, c))
  | .error _ => pure none

/-- What comes next, trivia apart, is an identifier right before a parenthesis. -/
noncomputable def commandFollows? (text : List Char) (pos : Nat) : Option Bool := do
  match ← nextSignificant? text pos with
  | some (stop, first) =>
      if Identifier.isStart first then
        let rest ← sliceFrom? text stop
        pure (rest.find? (fun c => !Identifier.isPart c) == some '(')
      else pure false
  | none => pure false

/-- A mark of two characters is not at the front of a text that is known not to begin with it. -/
theorem isPrefixOf_mark_eq_false {a b c : Char} {text : List Char}
    (noMark : ∀ later, c = a → text = b :: later → False) :
    [a, b].isPrefixOf (c :: text) = false := by
  rw [← Bool.not_eq_true, List.isPrefixOf_iff_prefix]
  rintro ⟨later, whole⟩
  obtain ⟨first, second⟩ := List.cons.inj whole
  exact noMark later first.symm second.symm

/-- The first mark that closes a comment is found behind the body of the comment. -/
theorem find?_close (text : List Char) :
    find? ['*', '/'] text = (Trivia.splitAtClose? text).map fun (body, _) => byteSize body := by
  fun_induction Trivia.splitAtClose? text with
  | case1 => rfl
  | case2 text => rfl
  | case3 c text notClose inductionHypothesis =>
      rw [find?, isPrefixOf_mark_eq_false notClose, inductionHypothesis]
      cases Trivia.splitAtClose? text with
      | none => rfl
      | some parts => rfl

/-- A line ends in front of the first line feed, or with the text. -/
theorem find?_lineFeed (text : List Char) :
    (find? ['\n'] text).getD (byteSize text) = byteSize (text.takeWhile (· != '\n')) := by
  induction text with
  | nil => rfl
  | cons c text inductionHypothesis =>
      rw [find?, List.takeWhile_cons]
      by_cases feed : c = '\n'
      · simp [feed]
      · have notHere : ['\n'].isPrefixOf (c :: text) = false := by
          simpa [List.isPrefixOf] using Ne.symm feed
        rw [notHere, if_neg Bool.false_ne_true, bne_iff_ne.mpr feed, if_pos rfl, byteSize_cons,
          byteSize_cons, ← inductionHypothesis]
        cases find? ['\n'] text with
        | none => rfl
        | some bytes => rfl

theorem triviaEnd?_turn (text : List Char) (pos : Nat) :
    triviaEnd? text pos = follow (triviaEnd? text) (triviaTurn? text pos) :=
  loop?_eq _ _

section Turns

variable {text rest : List Char} {pos : Nat} {previous : Option Char}

/-- A block comment is passed whole, or nothing closes it. -/
theorem triviaTurn?_blockComment {inside : List Char} (ahead : Ahead text pos ('/' :: '*' :: inside)) :
    triviaTurn? text pos =
      match Trivia.splitAtClose? inside with
      | some (body, _) => again (pos + byteSize (Trivia.Element.blockComment body).source)
      | none => done (.error pos) := by
  have behindMark : Ahead ('/' :: '*' :: inside) 2 inside := ⟨['/', '*'], rfl, rfl⟩
  rw [triviaTurn?, ahead.sliceFrom?_eq]
  simp only [List.isPrefixOf, beq_self_eq_true, Bool.and_true, Option.bind_eq_bind,
    Option.bind_some, if_true, behindMark.sliceFrom?_eq, find?_close]
  cases Trivia.splitAtClose? inside with
  | none => rfl
  | some parts =>
      simp only [Option.map_some, Trivia.byteSize_blockComment, Nat.add_assoc]

/-- Two slashes are passed with the rest of their line where they open a comment. -/
theorem triviaTurn?_slashes {inside : List Char} (ahead : Ahead text pos ('/' :: '/' :: inside))
    (front : opensLineComment? text pos = some (Trivia.opensLineComment previous)) :
    triviaTurn? text pos =
      if Trivia.opensLineComment previous then
        again (pos + byteSize (('/' :: '/' :: inside).takeWhile (· != '\n')))
      else done (.ok pos) := by
  have noComment : ['/', '*'].isPrefixOf ('/' :: '/' :: inside) = false := rfl
  have mark : ['/', '/'].isPrefixOf ('/' :: '/' :: inside) = true := rfl
  rw [triviaTurn?, ahead.sliceFrom?_eq]
  simp only [noComment, mark, Option.bind_eq_bind, Option.bind_some, Bool.false_eq_true, if_false,
    if_true, front, find?_lineFeed]
  rfl

/-- A character that is no mark of a comment is passed if it is a blank. -/
theorem triviaTurn?_plain {c : Char} (ahead : Ahead text pos (c :: rest))
    (noComment : ∀ later, c = '/' → rest = '*' :: later → False)
    (noSlashes : ∀ later, c = '/' → rest = '/' :: later → False) :
    triviaTurn? text pos =
      if Unicode.isWhitespace c then again (pos + c.utf8Size) else done (.ok pos) := by
  rw [triviaTurn?, ahead.sliceFrom?_eq]
  simp only [isPrefixOf_mark_eq_false noComment, isPrefixOf_mark_eq_false noSlashes,
    Option.bind_eq_bind, Option.bind_some, Bool.false_eq_true, if_false, List.head?_cons]
  by_cases blank : Unicode.isWhitespace c = true
  · rw [Option.filter_some_pos blank, if_pos blank]
    rfl
  · rw [Option.filter_some_neg (Bool.eq_false_iff.mpr blank), if_neg blank]
    rfl

/-- Trivia goes on behind its first element, and ends where there is none. -/
theorem triviaEnd?_of_first? (ahead : Ahead text pos rest)
    (front : opensLineComment? text pos = some (Trivia.opensLineComment previous)) :
    triviaEnd? text pos =
      match Trivia.first? previous rest with
      | some (element, _) => triviaEnd? text (pos + byteSize element.source)
      | none => some (if Trivia.opensBlockComment rest then .error pos else .ok pos) := by
  rw [triviaEnd?_turn]
  fun_cases Trivia.first? previous rest with
  | case1 inside =>
      rw [triviaTurn?_blockComment ahead]
      cases Trivia.splitAtClose? inside with
      | none => rfl
      | some parts => rfl
  | case2 inside opens =>
      rw [triviaTurn?_slashes ahead front, if_pos opens]
      rfl
  | case3 inside closed =>
      rw [triviaTurn?_slashes ahead front, if_neg closed]
      rfl
  | case4 c rest noComment noSlashes blank =>
      rw [triviaTurn?_plain ahead noComment noSlashes, if_pos blank]
      rfl
  | case5 c rest noComment noSlashes dark =>
      have noneOpen : Trivia.opensBlockComment (c :: rest) = false := by
        rw [Bool.eq_false_iff, ne_eq, Trivia.opensBlockComment_iff]
        rintro ⟨inside, whole⟩
        obtain ⟨slash, later⟩ := List.cons.inj whole
        exact noComment inside slash later
      rw [triviaTurn?_plain ahead noComment noSlashes, if_neg dark, noneOpen]
      rfl
  | case6 =>
      rw [triviaTurn?, ahead.sliceFrom?_eq]
      rfl

end Turns

end Offsets

namespace Cursor.StandsIn

open Offsets

variable {text : List Char} {cursor : Cursor}

/-- Behind the offset of a cursor lies what it has not passed. -/
theorem ahead (stands : cursor.StandsIn text) : Ahead text cursor.location.offset cursor.rest := by
  obtain ⟨before, after, rfl, rfl⟩ := stands
  exact ⟨before, rfl, (between_offset before after).symm⟩

/-- The character in front of a cursor is the last one of the text in front of its offset. -/
theorem opensLineComment?_eq (stands : cursor.StandsIn text) :
    opensLineComment? text cursor.location.offset =
      some (Trivia.opensLineComment cursor.previous) := by
  obtain ⟨before, after, rfl, rfl⟩ := stands
  have front : sliceTo? (before ++ after) (between before after).location.offset = some before :=
    sliceTo?_eq_some_iff.mpr ⟨after, rfl, (between_offset before after).symm⟩
  rw [opensLineComment?, front]
  rfl

/-- Trivia ends where the cursor that skips it stops, or a comment is left open there. -/
theorem triviaEnd?_eq (stands : cursor.StandsIn text) :
    triviaEnd? text cursor.location.offset = some
      (if Trivia.opensBlockComment (Trivia.skip cursor).rest then
        .error (Trivia.skip cursor).location.offset
      else .ok (Trivia.skip cursor).location.offset) := by
  fun_induction Trivia.skip cursor with
  | case1 cursor stops =>
      rw [triviaEnd?_of_first? stands.ahead stands.opensLineComment?_eq, stops]
  | case2 cursor element rest found inductionHypothesis =>
      have later := stands.move (Trivia.append_of_first? found).symm
      calc triviaEnd? text cursor.location.offset
        _ = triviaEnd? text (cursor.location.offset + byteSize element.source) := by
            rw [triviaEnd?_of_first? stands.ahead stands.opensLineComment?_eq, found]
        _ = triviaEnd? text (cursor.move element.source rest).location.offset := by rw [offset_move]
        _ = _ := inductionHypothesis later

/-- The next character that is no trivia is the one behind it, and an open comment has none. -/
theorem nextSignificant?_eq (stands : cursor.StandsIn text) :
    nextSignificant? text cursor.location.offset = some
      (if Trivia.opensBlockComment (Trivia.skip cursor).rest then none
      else (Trivia.skip cursor).rest.head?.map fun c => ((Trivia.skip cursor).location.offset, c)) := by
  rw [nextSignificant?, stands.triviaEnd?_eq]
  split
  · rfl
  · simp [stands.skip.ahead.peek?_eq]

/-- Whether a colon comes next is found out; the comment that is left open begins with none. -/
theorem exists_nextSignificant? (stands : cursor.StandsIn text) :
    ∃ next, nextSignificant? text cursor.location.offset = some next ∧
      (next.map Prod.snd == some ':') = (cursor.nextCharacter == some ':') := by
  refine ⟨_, stands.nextSignificant?_eq, ?_⟩
  rw [Cursor.nextCharacter]
  split
  · rename_i comment
    obtain ⟨inside, whole⟩ := Trivia.opensBlockComment_iff.mp comment
    rw [whole]
    rfl
  · rw [Option.map_map]
    cases (Trivia.skip cursor).rest with
    | nil => rfl
    | cons c rest => rfl

/-- Whether a command comes next is found out; the slash of an open comment begins none. -/
theorem commandFollows?_eq (stands : cursor.StandsIn text) :
    commandFollows? text cursor.location.offset = some cursor.commandFollows := by
  rw [commandFollows?, stands.nextSignificant?_eq, Cursor.commandFollows]
  split
  · rename_i comment
    obtain ⟨inside, whole⟩ := Trivia.opensBlockComment_iff.mp comment
    have slash : Identifier.isStart '/' = false := by decide
    simp [whole, slash]
  · have behindTrivia := stands.skip.ahead
    cases behind : (Trivia.skip cursor).rest with
    | nil => rfl
    | cons first later =>
        rw [behind] at behindTrivia
        cases opens : Identifier.isStart first with
        | false => simp [opens]
        | true =>
            have belongs := Identifier.isPart_of_isStart opens
            have stop := List.find?_not_eq_head?_dropWhile Identifier.isPart later
            simp [opens, behindTrivia.sliceFrom?_eq, belongs, Identifier.behindName, stop]

end Cursor.StandsIn

end StyleLexer
