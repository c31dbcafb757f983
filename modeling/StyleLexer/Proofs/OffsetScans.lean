import StyleLexer.Proofs.Loops
import StyleLexer.Proofs.Offsets
import StyleLexer.Proofs.ScanEnds

/-!
# Scans by byte offsets

A longest run, a quoted run and the body of an interpolation, passed one character at a time from one
byte offset to the next. A loop here has no bound of its own: it is `none` if it never ends, and if
it looks at the text where there is no boundary. The laws say that from a boundary of the text each
loop comes to an answer, and that it stops where the scan of the text ahead splits it.
-/

namespace StyleLexer

/-- A character that begins no escape, whatever stands behind it, is no backslash. -/
theorem Quoted.ne_backslash_of_noEscape {c : Char} {text : List Char}
    (notLast : c = '\\' → text = [] → False)
    (notPair : ∀ d later, c = '\\' → text = d :: later → False) : c ≠ '\\' := by
  rintro rfl
  cases text with
  | nil => exact notLast rfl rfl
  | cons d later => exact notPair d later rfl rfl

namespace Offsets

open Loop

/-- The character behind an offset, unless the text ends there. -/
def peek? (text : List Char) (pos : Nat) : Option (Option Char) :=
  (sliceFrom? text pos).map List.head?

/-- The character behind an offset and the offset behind that character. The end of the text is not
passed. -/
def bump? (text : List Char) (pos : Nat) : Option (Option Char × Nat) := do
  match ← peek? text pos with
  | some c => pure (some c, pos + c.utf8Size)
  | none => pure (none, pos)

/-- Passes a character if it belongs. -/
def whileTurn? (text : List Char) (p : Char → Bool) (pos : Nat) : Option (Nat ⊕ Nat) := do
  match ← peek? text pos with
  | some c =>
      if p c then
        let (_, behind) ← bump? text pos
        again behind
      else done pos
  | none => done pos

/-- Passes characters as long as they belong. -/
noncomputable def passWhile? (text : List Char) (p : Char → Bool) : Nat → Option Nat :=
  loop? (whileTurn? text p)

/-- Passes a character of a quoted run, or two of them behind a backslash. -/
def quotedTurn? (text : List Char) (quote : Char) (pos : Nat) :
    Option ((Option Nat × Nat) ⊕ Nat) := do
  match ← bump? text pos with
  | (some c, behind) =>
      if c = '\\' then
        let (_, behind) ← bump? text behind
        again behind
      else if c = quote then
        let closing ← subtract? behind c.utf8Size
        done (some closing, behind)
      else again behind
  | (none, stop) => done (none, stop)

/-- Passes a quoted run behind its opening quote. The answer holds the offset of the closing quote,
unless there is none, and the offset where passing has stopped. -/
noncomputable def passRun? (text : List Char) (quote : Char) : Nat → Option (Option Nat × Nat) :=
  loop? (quotedTurn? text quote)

/-- Passes a quoted run, from its opening quote on. -/
noncomputable def passQuoted? (text : List Char) (pos : Nat) : Option (Option Nat × Nat) := do
  match ← bump? text pos with
  | (some quote, behind) => passRun? text quote behind
  | (none, stop) => pure (none, stop)

/-- Passes a quoted run or a character of the body of an interpolation, while further braces are
open. -/
noncomputable def bodyTurn? (text : List Char) :
    Nat × Nat → Option ((Bool × Nat) ⊕ (Nat × Nat)) := fun (depth, pos) => do
  match ← peek? text pos with
  | some c =>
      if Quoted.isQuote c then
        match ← passQuoted? text pos with
        | (some _, behind) => again (depth, behind)
        | (none, stop) => done (false, stop)
      else if c = '\x7d' then
        if depth = 0 then done (true, pos)
        else
          let outer ← subtract? depth 1
          let (_, behind) ← bump? text pos
          again (outer, behind)
      else
        let (_, behind) ← bump? text pos
        again (if c = '\x7b' then depth + 1 else depth, behind)
  | none => done (false, pos)

/-- Passes the body of an interpolation while `depth` further braces are open, and stops in front of
the brace that closes it. The answer says whether there is such a brace. -/
noncomputable def passBody? (text : List Char) (depth pos : Nat) : Option (Bool × Nat) :=
  loop? (bodyTurn? text) (depth, pos)

section Turns

variable (text : List Char)

theorem passWhile?_turn (p : Char → Bool) (pos : Nat) :
    passWhile? text p pos = follow (passWhile? text p) (whileTurn? text p pos) :=
  loop?_eq _ _

theorem passRun?_turn (quote : Char) (pos : Nat) :
    passRun? text quote pos = follow (passRun? text quote) (quotedTurn? text quote pos) :=
  loop?_eq _ _

theorem passBody?_turn (depth pos : Nat) :
    passBody? text depth pos =
      follow (fun (depth, pos) => passBody? text depth pos) (bodyTurn? text (depth, pos)) :=
  loop?_eq _ _

end Turns

variable {text rest : List Char} {pos : Nat}

namespace Ahead

theorem peek?_eq (ahead : Ahead text pos rest) : peek? text pos = some rest.head? := by
  rw [peek?, ahead.sliceFrom?_eq, Option.map_some]

theorem bump?_cons {c : Char} (ahead : Ahead text pos (c :: rest)) :
    bump? text pos = some (some c, pos + c.utf8Size) := by
  rw [bump?, ahead.peek?_eq]
  rfl

theorem bump?_nil (ahead : Ahead text pos []) : bump? text pos = some (none, pos) := by
  rw [bump?, ahead.peek?_eq]
  rfl

/-- A longest run is passed whole. -/
theorem passWhile?_eq (p : Char → Bool) (ahead : Ahead text pos rest) :
    passWhile? text p pos = some (pos + byteSize (rest.takeWhile p)) := by
  induction rest generalizing pos with
  | nil =>
      rw [passWhile?_turn, whileTurn?, ahead.peek?_eq]
      rfl
  | cons c rest inductionHypothesis =>
      rw [passWhile?_turn, whileTurn?, ahead.peek?_eq]
      simp only [List.head?_cons, Option.bind_eq_bind, Option.bind_some, ahead.bump?_cons,
        List.takeWhile_cons]
      split
      · rw [follow_again, inductionHypothesis ahead.cons, byteSize_cons, Nat.add_assoc]
      · rfl

/-- A quoted run is passed up to the quote that closes it, and all of the text if there is none. -/
theorem passRun?_eq (quote : Char) (ahead : Ahead text pos rest) :
    passRun? text quote pos = some
      (match Quoted.split? quote rest with
      | some (body, _) => (some (pos + byteSize body), pos + byteSize body + quote.utf8Size)
      | none => (none, byteSize text)) := by
  fun_induction Quoted.split? quote rest generalizing pos with
  | case1 =>
      rw [passRun?_turn, quotedTurn?, ahead.bump?_nil, ← ahead.offset_add]
      rfl
  | case2 =>
      rw [passRun?_turn, quotedTurn?, ahead.bump?_cons]
      simp only [Option.bind_eq_bind, Option.bind_some, if_true, ahead.cons.bump?_nil, follow_again]
      rw [passRun?_turn, quotedTurn?, ahead.cons.bump?_nil, ← ahead.cons.offset_add]
      rfl
  | case3 c rest inductionHypothesis =>
      rw [passRun?_turn, quotedTurn?, ahead.bump?_cons]
      simp only [Option.bind_eq_bind, Option.bind_some, if_true, ahead.cons.bump?_cons,
        follow_again, inductionHypothesis ahead.cons.cons]
      cases Quoted.split? quote rest with
      | none => rfl
      | some parts => simp [Nat.add_assoc]
  | case4 rest notLast notPair =>
      have notEscape := Quoted.ne_backslash_of_noEscape notLast notPair
      have closing : subtract? (pos + quote.utf8Size) quote.utf8Size = some pos :=
        subtract?_eq_some_iff.mpr rfl
      rw [passRun?_turn, quotedTurn?, ahead.bump?_cons]
      simp [notEscape, closing]
  | case5 c rest notLast notPair notQuote inductionHypothesis =>
      have notEscape := Quoted.ne_backslash_of_noEscape notLast notPair
      rw [passRun?_turn, quotedTurn?, ahead.bump?_cons]
      simp only [Option.bind_eq_bind, Option.bind_some, notEscape, notQuote, if_false,
        follow_again, inductionHypothesis ahead.cons]
      cases Quoted.split? quote rest with
      | none => rfl
      | some parts => simp [Nat.add_assoc]

/-- A quoted run is passed together with its quotes. -/
theorem passQuoted?_eq {quote : Char} (ahead : Ahead text pos (quote :: rest)) :
    passQuoted? text pos = some
      (match Quoted.split? quote rest with
      | some (body, _) =>
          (some (pos + byteSize (quote :: body)), pos + byteSize (quote :: body ++ [quote]))
      | none => (none, byteSize text)) := by
  rw [passQuoted?, ahead.bump?_cons]
  simp only [Option.bind_eq_bind, Option.bind_some, passRun?_eq quote ahead.cons]
  cases Quoted.split? quote rest with
  | none => rfl
  | some parts => simp [Nat.add_assoc]

/-- The body of an interpolation is passed up to the brace that closes it, and all of the text if
there is none. -/
theorem passBody?_eq (depth : Nat) (ahead : Ahead text pos rest) :
    passBody? text depth pos = some
      (match Interpolation.split? depth rest with
      | some (body, _) => (true, pos + byteSize body)
      | none => (false, byteSize text)) := by
  fun_induction Interpolation.split? depth rest generalizing pos with
  | case1 depth =>
      rw [passBody?_turn, bodyTurn?, ahead.peek?_eq, ← ahead.offset_add]
      rfl
  | case2 depth c rest opens unclosed =>
      rw [passBody?_turn, bodyTurn?, ahead.peek?_eq]
      simp [opens, passQuoted?_eq ahead, unclosed]
  | case3 depth c rest opens inside behind closed inductionHypothesis =>
      have whole := Quoted.append_of_split? closed
      have behindRun : Ahead text (pos + byteSize (c :: inside ++ [c])) behind :=
        append (by simpa [whole] using ahead)
      rw [passBody?_turn, bodyTurn?, ahead.peek?_eq]
      simp only [List.head?_cons, Option.bind_eq_bind, Option.bind_some, opens, if_true,
        passQuoted?_eq ahead, closed, follow_again, inductionHypothesis behindRun]
      cases Interpolation.split? depth behind with
      | none => rfl
      | some parts => simp [Nat.add_assoc]
  | case4 rest notQuote =>
      rw [passBody?_turn, bodyTurn?, ahead.peek?_eq]
      simp [notQuote]
  | case5 rest outer notQuote inductionHypothesis =>
      have difference : subtract? (outer + 1) 1 = some outer := subtract?_eq_some_iff.mpr rfl
      rw [passBody?_turn, bodyTurn?, ahead.peek?_eq]
      simp only [List.head?_cons, Option.bind_eq_bind, Option.bind_some, notQuote, Bool.false_eq_true,
        if_false, if_true, Nat.succ_ne_zero, difference, ahead.bump?_cons, follow_again,
        inductionHypothesis ahead.cons]
      cases Interpolation.split? outer rest with
      | none => rfl
      | some parts => simp [Nat.add_assoc]
  | case6 depth rest notQuote notClosing inductionHypothesis =>
      rw [passBody?_turn, bodyTurn?, ahead.peek?_eq]
      simp only [List.head?_cons, Option.bind_eq_bind, Option.bind_some, notQuote, Bool.false_eq_true,
        notClosing, if_false, if_true, ahead.bump?_cons, follow_again, inductionHypothesis ahead.cons]
      cases Interpolation.split? (depth + 1) rest with
      | none => rfl
      | some parts => simp [Nat.add_assoc]
  | case7 depth c rest notQuote notClosing notOpening inductionHypothesis =>
      rw [passBody?_turn, bodyTurn?, ahead.peek?_eq]
      simp only [List.head?_cons, Option.bind_eq_bind, Option.bind_some, notQuote, Bool.false_eq_true,
        notClosing, notOpening, if_false, ahead.bump?_cons, follow_again,
        inductionHypothesis ahead.cons]
      cases Interpolation.split? depth rest with
      | none => rfl
      | some parts => simp [Nat.add_assoc]

end Ahead

end Offsets

end StyleLexer
