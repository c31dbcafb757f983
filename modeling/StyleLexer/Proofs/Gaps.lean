import StyleLexer.Proofs.Exchanges
import StyleLexer.Proofs.Layouts
import StyleLexer.Proofs.Readings
import StyleLexer.Proofs.Slices
import StyleLexer.Proofs.Steps

/-!
# Gaps between lexemes

What stands behind a gap is read in the same way whichever trivia the gap consists of:
`exists_items_behind_gap` gives the tokens there once for all gaps.
-/

namespace StyleLexer

/-- What is ahead of a boundary is the same behind every front that gives the same leave to a
line comment, moved by the size of the front. -/
theorem exists_ahead (front rest : List Char) :
    ∃ (relative : List Token) (passed behind : List Char) (cause : Option Cause), ∀ front',
      Trivia.opensLineComment front.getLast? = Trivia.opensLineComment front'.getLast? →
        ∃ last, Passage (.between front' rest) (relative.map (Token.shift (byteSize front'))) last ∧
          Trivia.skip last = .between (front' ++ passed) behind ∧
            (Trivia.skip last).finding = .stop cause := by
  obtain ⟨tokens, last, cause, passage, stops⟩ := exists_passage (.between front rest)
  obtain ⟨passed, behind, rfl, rfl, stretch⟩ := passage.exists_stretch rfl
  obtain ⟨relative, _, moved⟩ := stretch.exists_relative
  obtain ⟨trivia, unread, rfl, run, skipped⟩ := Trivia.exists_skip_between (front ++ passed) behind
  have ends := Trivia.first?_skip (.between (front ++ passed) (trivia ++ unread))
  rw [skipped] at ends stops
  refine ⟨relative, passed ++ trivia, unread, cause, ?_⟩
  intro front' same
  have samePassed := Trivia.opensLineComment_append same passed
  have sameTrivia := Trivia.opensLineComment_append samePassed trivia
  have skipped' : Trivia.skip (.between (front' ++ passed) (trivia ++ unread)) =
      .between (front' ++ passed ++ trivia) unread := by
    refine Trivia.skip_between (run.congr samePassed rfl) ?_
    rw [← Trivia.first?_congr sameTrivia]
    exact ends
  refine ⟨_, (moved front' same).passage, ?_, ?_⟩
  · rw [skipped', List.append_assoc]
  · rw [skipped']
    exact stops

/-- What is ahead of a gap depends on what stands behind it, and not on the gap or on what
stands in front of it. -/
theorem exists_behind_gap (rest : List Char) :
    ∃ (relative : List Token) (passed behind : List Char) (cause : Option Cause),
      (rest = [] → relative = []) ∧ ∀ front gap,
        Trivia.skip (.between front (gap ++ rest)) = .between (front ++ gap) rest →
          ∃ last, Passage (.between front (gap ++ rest))
              (relative.map (Token.shift (byteSize (front ++ gap)))) last ∧
            Trivia.skip last = .between (front ++ gap ++ passed) behind ∧
              (Trivia.skip last).finding = .stop cause := by
  -- A lexeme behind the gap hides the gap from all that follows.
  cases found : (Cursor.between [] rest).finding with
  | stop cause =>
      refine ⟨[], [], rest, cause, fun _ => rfl, fun front gap skipped => ⟨_, .here, ?_, ?_⟩⟩
      · rw [skipped, List.append_nil]
      · rw [skipped]
        exact found
  | lexeme lexeme unread =>
      obtain ⟨_, source, fits⟩ := Cursor.finding_eq_lexeme_iff.mp found
      rw [Cursor.between_rest] at source
      have nonempty := Lexeme.source_ne_nil fits
      obtain ⟨relative, passed, behind, cause, ahead⟩ := exists_ahead lexeme.source unread
      refine ⟨⟨lexeme, 0⟩ :: relative.map (Token.shift (byteSize lexeme.source)),
        lexeme.source ++ passed, behind, cause, ?_, ?_⟩
      · intro empty
        rw [empty] at source
        exact absurd (List.append_eq_nil_iff.mp source.symm).1 nonempty
      · intro front gap skipped
        have same : Trivia.opensLineComment lexeme.source.getLast? =
            Trivia.opensLineComment (front ++ gap ++ lexeme.source).getLast? := by
          rw [List.getLast?_append, List.getLast?_eq_some_getLast nonempty]
          rfl
        obtain ⟨last, later, ends, stops⟩ := ahead _ same
        refine ⟨last, ?_, by simpa using ends, stops⟩
        have here : (Trivia.skip (.between front (gap ++ rest))).finding =
            .lexeme lexeme unread := by
          rw [skipped]
          exact found
        have passage := Passage.more here (by
          rw [skipped, source, Cursor.between_move]
          exact later)
        rw [skipped, Cursor.between_offset] at passage
        have tokens : (⟨lexeme, 0⟩ :: relative.map (Token.shift (byteSize lexeme.source))).map
              (Token.shift (byteSize (front ++ gap))) =
            ⟨lexeme, byteSize (front ++ gap)⟩ ::
              relative.map (Token.shift (byteSize (front ++ gap ++ lexeme.source))) := by
          simp [Token.shift, Nat.add_assoc, Function.comp_def]
        rw [tokens]
        exact passage

/-- The items of a text that has a gap: those of the tokens in front of it, and those of the
tokens behind it, which are the same for all gaps. -/
theorem exists_items_behind_gap (rest : List Char) :
    ∃ (relative : List Token) (passed behind : List Char) (cause : Option Cause),
      (rest = [] → relative = []) ∧ ∀ (text : String) (tokens : List Token) (front gap : List Char),
        Passage (Cursor.ofText text.toList) tokens (.between front (gap ++ rest)) →
        Trivia.skip (.between front (gap ++ rest)) = .between (front ++ gap) rest →
          (ItemStream.ofText text).items =
            Token.items .initial (tokens ++ relative.map (Token.shift (byteSize (front ++ gap)))) ++
              [(Cursor.between (front ++ gap ++ passed) behind).closing cause] := by
  obtain ⟨relative, passed, behind, cause, atEnd, ahead⟩ := exists_behind_gap rest
  refine ⟨relative, passed, behind, cause, atEnd, ?_⟩
  intro text tokens front gap leading skipped
  obtain ⟨last, trailing, ends, stops⟩ := ahead front gap skipped
  rw [← ends]
  exact ItemStream.items_of_passage (leading.append trailing) stops .initial

end StyleLexer
