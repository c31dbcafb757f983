import StyleLexer.Proofs.Passages

/-!
# Stretches of a text

A `Stretch` is a passage without cursors: the tokens of the text between two boundaries, as
far as they follow from that text and from what stands around it. `Passage.exists_stretch`
and `Stretch.passage` go from one to the other.

What stands around a stretch matters in two respects. The text behind it must not join the
last lexeme, which is what `Lexeme.Meets` asks; then `Stretch.replace` puts it there. The
text in front of it gives or refuses leave to open a line comment, and all offsets move
with it; `Stretch.exists_relative` puts the same stretch behind another text.
-/

namespace StyleLexer

@[simp] theorem Cursor.between_offset (before after : List Char) :
    (between before after).location.offset = byteSize before := by
  simp [between, Location.origin]

namespace Lexeme

/-- Whether a lexeme fits depends only on the character behind it. -/
theorem Fits.congr {lexeme : Lexeme} {rest rest' : List Char} (fits : lexeme.Fits rest)
    (same : rest.head? = rest'.head?) : lexeme.Fits rest' := by
  have stops : Identifier.StopsName rest → Identifier.StopsName rest' := by
    intro stop c head
    exact stop c (same.trans head)
  cases lexeme with
  | variableName name => exact ⟨fits.1, stops fits.2⟩
  | interpolation body => exact fits
  | quoted quote body => exact fits
  | number digits => exact ⟨fits.1, fits.2.1, fun c head => fits.2.2 c (same.trans head)⟩
  | directive name => exact ⟨fits.1, stops fits.2⟩
  | word text => exact ⟨fits.1, fits.2.1, stops fits.2.2⟩
  | hashName name => exact ⟨fits.1, stops fits.2⟩
  | symbol c =>
      obtain ⟨mark, opens, noName⟩ := fits
      refine ⟨mark, ?_, fun hash => stops (noName hash)⟩
      unfold Category.Opens at opens ⊢
      rwa [← same]

/-- The text behind a lexeme neither joins it nor makes a comment of it. -/
def Meets (rest : List Char) (lexeme : Lexeme) : Prop :=
  lexeme.Fits rest ∧
    (lexeme.source = ['/'] → ∀ c, rest.head? = some c → c ≠ '*' ∧ c ≠ '/')

end Lexeme

namespace Trivia

/-- Skipping from a boundary passes a run of trivia and reaches a boundary of the same
text. -/
theorem exists_skip_between (before after : List Char) :
    ∃ trivia rest, after = trivia ++ rest ∧ Run rest before.getLast? trivia ∧
      skip (.between before after) = .between (before ++ trivia) rest := by
  obtain ⟨trivia, run, whole, skipped⟩ := exists_run_skip (.between before after)
  rw [Cursor.between_rest] at whole
  refine ⟨trivia, (skip (.between before after)).rest, whole, run, ?_⟩
  rw [← Cursor.between_move, ← whole]
  exact skipped

/-- Skipping passes a run of trivia behind which nothing fits. -/
theorem skip_between {before trivia rest : List Char} (run : Run rest before.getLast? trivia)
    (stops : first? (before ++ trivia).getLast? rest = none) :
    skip (.between before (trivia ++ rest)) = .between (before ++ trivia) rest := by
  rw [← Cursor.between_move, skip_eq_move_iff (Cursor.between_rest _ _)]
  rw [List.getLast?_append] at stops
  exact ⟨run, stops⟩

/-- A line comment may open behind a text that is not empty no matter what is in front of the
text. -/
theorem opensLineComment_append {front front' : List Char}
    (same : opensLineComment front.getLast? = opensLineComment front'.getLast?)
    (text : List Char) :
    opensLineComment (front ++ text).getLast? = opensLineComment (front' ++ text).getLast? := by
  rw [List.getLast?_append, List.getLast?_append]
  cases text.getLast? with
  | none => exact same
  | some c => rfl

/-- The marks of trivia are seen with no more of the front than whether a line comment may
open there. -/
theorem opens_congr {front front' : Option Char}
    (same : opensLineComment front = opensLineComment front') (text : List Char) :
    opens front text = opens front' text := by
  unfold opens
  simp only [same]

end Trivia

/-- The first character of a text that is not empty does not depend on what is behind it. -/
theorem head?_append_congr {text : List Char} (nonempty : text ≠ []) (left right : List Char) :
    (text ++ left).head? = (text ++ right).head? := by
  cases text with
  | nil => exact absurd rfl nonempty
  | cons c text => rfl

/-- The text `passed` behind `before` and in front of `behind` has these tokens, the last of
which ends where it does. -/
inductive Stretch (behind : List Char) : List Char → List Char → List Token → Prop where
  | empty {before : List Char} : Stretch behind before [] []
  | more {before trivia passed : List Char} {lexeme : Lexeme} {tokens : List Token}
      (run : Trivia.Run (lexeme.source ++ (passed ++ behind)) before.getLast? trivia)
      (clear : Trivia.opens (before ++ trivia).getLast? (lexeme.source ++ (passed ++ behind)) =
        false)
      (fits : lexeme.Fits (passed ++ behind))
      (later : Stretch behind (before ++ trivia ++ lexeme.source) passed tokens) :
      Stretch behind before (trivia ++ lexeme.source ++ passed)
        (⟨lexeme, byteSize (before ++ trivia)⟩ :: tokens)

/-- A passage from a boundary goes over a stretch of the text. -/
theorem Passage.exists_stretch {cursor last : Cursor} {tokens : List Token}
    (passage : Passage cursor tokens last) {before after : List Char}
    (start : cursor = .between before after) :
    ∃ passed behind, after = passed ++ behind ∧ last = .between (before ++ passed) behind ∧
      Stretch behind before passed tokens := by
  induction passage generalizing before after with
  | here => exact ⟨[], after, rfl, by rw [start, List.append_nil], .empty⟩
  | @more cursor last lexeme rest tokens found later inductionHypothesis =>
      subst start
      obtain ⟨trivia, text, rfl, run, skipped⟩ := Trivia.exists_skip_between before after
      have stops := Trivia.first?_skip (.between before (trivia ++ text))
      rw [skipped] at found inductionHypothesis stops ⊢
      obtain ⟨noComment, source, fits⟩ := Cursor.finding_eq_lexeme_iff.mp found
      rw [Cursor.between_rest] at source
      subst source
      obtain ⟨passed, behind, rfl, ends, stretch⟩ :=
        inductionHypothesis (Cursor.between_move _ _ _)
      have clear := Trivia.opens_eq_false_iff.mpr ⟨stops, noComment⟩
      refine ⟨trivia ++ lexeme.source ++ passed, behind, by simp, ?_, ?_⟩
      · rw [ends]
        simp
      · rw [Cursor.between_offset]
        exact .more run clear fits stretch

namespace Stretch

variable {behind behind' before passed : List Char} {tokens : List Token}

/-- A stretch is passed by reading on. -/
theorem passage (stretch : Stretch behind before passed tokens) :
    Passage (.between before (passed ++ behind)) tokens (.between (before ++ passed) behind) := by
  induction stretch with
  | empty =>
      rw [List.append_nil]
      exact .here
  | @more before trivia passed lexeme tokens run clear fits _ inductionHypothesis =>
      obtain ⟨stops, noComment⟩ := Trivia.opens_eq_false_iff.mp clear
      have skipped := Trivia.skip_between run stops
      have found : (Trivia.skip (.between before
          (trivia ++ (lexeme.source ++ (passed ++ behind))))).finding =
            .lexeme lexeme (passed ++ behind) := by
        rw [skipped]
        exact Cursor.finding_eq_lexeme_iff.mpr ⟨noComment, rfl, fits⟩
      have whole : trivia ++ lexeme.source ++ passed ++ behind =
          trivia ++ (lexeme.source ++ (passed ++ behind)) := by simp
      have offset : byteSize (before ++ trivia) = (Trivia.skip (.between before
          (trivia ++ (lexeme.source ++ (passed ++ behind))))).location.offset := by
        rw [skipped, Cursor.between_offset]
      rw [whole, offset]
      refine .more found ?_
      rw [skipped, Cursor.between_move]
      simpa using inductionHypothesis

/-- A stretch with a token is not empty. -/
theorem passed_ne_nil {token : Token} (stretch : Stretch behind before passed (token :: tokens)) :
    passed ≠ [] := by
  cases stretch with
  | more run clear fits later => simp [Lexeme.source_ne_nil fits]

/-- The last token ends where the stretch does. -/
theorem exists_of_getLast? (stretch : Stretch behind before passed tokens) {token : Token}
    (isLast : tokens.getLast? = some token) :
    ∃ front, passed = front ++ token.lexeme.source ∧ token.offset = byteSize (before ++ front) := by
  induction stretch with
  | empty => cases isLast
  | @more before trivia passed lexeme tokens run clear fits later inductionHypothesis =>
      cases later with
      | empty =>
          obtain rfl := Option.some.inj isLast
          exact ⟨trivia, List.append_nil _, rfl⟩
      | more =>
          rw [List.getLast?_cons_cons] at isLast
          obtain ⟨front, whole, offset⟩ := inductionHypothesis isLast
          refine ⟨trivia ++ lexeme.source ++ front, ?_, ?_⟩
          · rw [whole, List.append_assoc _ front]
          · rw [offset]
            simp only [List.append_assoc]

/-- A stretch remains one in front of every text that meets its last lexeme. -/
theorem replace (stretch : Stretch behind before passed tokens)
    (meets : ∀ token, tokens.getLast? = some token → token.lexeme.Meets behind') :
    Stretch behind' before passed tokens := by
  induction stretch with
  | empty => exact .empty
  | @more before trivia passed lexeme tokens run clear fits later inductionHypothesis =>
      have nonempty := Lexeme.source_ne_nil fits
      have run' := run.congr rfl (head?_append_congr nonempty _ (passed ++ behind'))
      cases tokens with
      | nil =>
          cases later
          obtain ⟨fits', noMark⟩ := meets _ rfl
          exact .more run' (Trivia.opens_append_eq_false nonempty noMark clear) fits' .empty
      | cons token tokens =>
          have more := later.passed_ne_nil
          refine .more run' ?_ (fits.congr ?_) (inductionHypothesis ?_)
          · rw [← List.append_assoc] at clear ⊢
            refine Trivia.opens_append_eq_false (by simp [nonempty]) ?_ clear
            intro slash
            have length := congrArg List.length slash
            have positive := List.length_pos_iff.mpr nonempty
            have positive' := List.length_pos_iff.mpr more
            simp only [List.length_append, List.length_singleton] at length
            omega
          · exact head?_append_congr more behind behind'
          · intro token' isLast
            exact meets token' (by rwa [List.getLast?_cons_cons])

/-- Stretches that meet make up one stretch. -/
theorem append {later : List Char} {tokens' : List Token}
    (leading : Stretch (later ++ behind) before passed tokens)
    (trailing : Stretch behind (before ++ passed) later tokens') :
    Stretch behind before (passed ++ later) (tokens ++ tokens') := by
  induction leading with
  | empty => simpa using trailing
  | @more before trivia passed lexeme tokens run clear fits _ inductionHypothesis =>
      have together := inductionHypothesis (by simpa using trailing)
      rw [List.append_assoc (trivia ++ lexeme.source)]
      rw [← List.append_assoc passed later behind] at run clear fits
      exact .more run clear fits together

end Stretch

/-- Behind another text that gives the same leave to a line comment there is the same
stretch, moved by the size of that text. -/
theorem Stretch.exists_relative {behind before passed : List Char} {tokens : List Token}
    (stretch : Stretch behind before passed tokens) :
    ∃ relative : List Token, tokens = relative.map (Token.shift (byteSize before)) ∧
      ∀ before', Trivia.opensLineComment before.getLast? =
          Trivia.opensLineComment before'.getLast? →
        Stretch behind before' passed (relative.map (Token.shift (byteSize before'))) := by
  induction stretch with
  | empty => exact ⟨[], rfl, fun _ _ => .empty⟩
  | @more before trivia passed lexeme tokens run clear fits _ inductionHypothesis =>
      obtain ⟨relative, rfl, moved⟩ := inductionHypothesis
      have shifted (front : List Char) :
          (⟨lexeme, byteSize (front ++ trivia)⟩ : Token) ::
              relative.map (Token.shift (byteSize (front ++ trivia ++ lexeme.source))) =
            (⟨lexeme, byteSize trivia⟩ ::
              relative.map (Token.shift (byteSize (trivia ++ lexeme.source)))).map
                (Token.shift (byteSize front)) := by
        simp [Token.shift, Nat.add_assoc, Function.comp_def]
      refine ⟨_, shifted before, ?_⟩
      intro before' same
      rw [← shifted before']
      have sameBehind := Trivia.opensLineComment_append same trivia
      refine .more (run.congr same rfl) ?_ fits (moved _ ?_)
      · rwa [← Trivia.opens_congr sameBehind]
      · exact Trivia.opensLineComment_append sameBehind lexeme.source

end StyleLexer
