import StyleLexer.Proofs.Gaps
import StyleLexer.Proofs.TrailingBlanks

/-!
# Gaps and blanks

A gap is all the trivia behind a place where the scanner seeks. `Gap.exists_stretch` says how a
text is read up to a gap; `Stretch.passage_blanks` and `Trivia.skip_blanks` say that blanks in
its place are reached and skipped in the same way. `items_of_blanks` is what this means for the
items: between lexemes, comments and blanks may take each other's place.
-/

namespace StyleLexer

namespace Trivia

/-- Skipping to an offset is skipping to the boundary there. -/
theorem skip_eq_between {front gap rest : List Char}
    (offset : (skip (.between front (gap ++ rest))).location.offset = byteSize (front ++ gap)) :
    skip (.between front (gap ++ rest)) = .between (front ++ gap) rest := by
  obtain ⟨trivia, rest', whole, _, skipped⟩ := exists_skip_between front (gap ++ rest)
  rw [skipped, Cursor.between_offset, byteSize_append, byteSize_append] at offset
  obtain rfl := eq_of_byteSize_eq whole (Nat.add_left_cancel offset).symm
  obtain rfl := List.append_cancel_left whole
  exact skipped

/-- Where no line comment opens, the trivia found does not depend on the character in front. -/
theorem first?_eq_of_noSlashes {text : List Char} (noSlashes : ¬ ['/', '/'] <+: text)
    (front front' : Option Char) : first? front text = first? front' text := by
  unfold first?
  split
  · rfl
  · exact absurd ⟨_, rfl⟩ noSlashes
  · rfl
  · rfl

end Trivia

/-- A passage to an offset goes over a stretch to the boundary there. -/
theorem Passage.exists_stretch_ofText {before behind : List Char} {tokens : List Token}
    {cursor : Cursor} (passage : Passage (Cursor.ofText (before ++ behind)) tokens cursor)
    (offset : cursor.location.offset = byteSize before) :
    cursor = .between before behind ∧ ∃ passed,
      leadingMark (before ++ behind) ++ passed = before ∧
        Stretch behind (leadingMark (before ++ behind)) passed tokens := by
  obtain ⟨unread, whole, opened⟩ := Cursor.exists_ofText (before ++ behind)
  obtain ⟨passed, behind', rfl, rfl, stretch⟩ := passage.exists_stretch opened
  rw [Cursor.between_offset] at offset
  rw [← List.append_assoc] at whole
  have front := eq_of_byteSize_eq whole.symm offset
  rw [front] at whole ⊢
  obtain rfl := List.append_cancel_left whole
  exact ⟨rfl, passed, front, stretch⟩

/-- No token stands in front of the start of a text, or in front of the end of its byte order
mark. -/
theorem Stretch.eq_nil_of_leadingMark {text passed before behind : List Char}
    {tokens : List Token} (stretch : Stretch behind (leadingMark text) passed tokens)
    (front : leadingMark text ++ passed = before) (whole : text = before ++ behind)
    (start : before = [] ∨ before = ['\ufeff']) : tokens = [] := by
  have nothing : passed = [] := by
    rcases start with rfl | rfl
    · exact (List.append_eq_nil_iff.mp front).2
    · rw [whole] at front
      exact List.append_cancel_left front
  cases tokens with
  | nil => rfl
  | cons token tokens => exact absurd nothing stretch.passed_ne_nil

/-- Blanks may take the place of everything behind a stretch. -/
theorem Stretch.passage_blanks {text passed before behind blanks : List Char}
    {tokens : List Token} (stretch : Stretch behind (leadingMark text) passed tokens)
    (front : leadingMark text ++ passed = before) (whole : text = before ++ behind)
    (nonempty : blanks ≠ []) (blank : ∀ c ∈ blanks, Unicode.isWhitespace c = true)
    (rest : List Char) :
    Passage (Cursor.ofText (before ++ (blanks ++ rest))) tokens
      (.between before (blanks ++ rest)) := by
  have blankFirst := BlankFirst.append nonempty blank rest
  rw [← front] at whole
  have mark := leadingMark_append whole (blankFirst.head?_ne rfl)
  have exchanged := stretch.exchange (.inr blankFirst)
  rw [front] at mark
  rw [← mark] at exchanged front
  have passage := exchanged.passage_ofText (by rw [front])
  rwa [front] at passage

/-- Blanks are skipped to the place where no trivia is found. -/
theorem Trivia.skip_blanks {front gap rest blanks : List Char}
    (skipped : skip (.between front (gap ++ rest)) = .between (front ++ gap) rest)
    (noSlashes : ¬ ['/', '/'] <+: rest)
    (blank : ∀ c ∈ blanks, Unicode.isWhitespace c = true) :
    skip (.between front (blanks ++ rest)) = .between (front ++ blanks) rest := by
  have stops := first?_skip (.between front (gap ++ rest))
  rw [skipped] at stops
  refine skip_between (.of_blank blank _ _) ?_
  rw [← stops]
  exact first?_eq_of_noSlashes noSlashes _ _

/-- All the trivia between `before` and `after`: a scanner of the text seeks behind `before`,
and it skips to `after`. No line comment opens behind the gap, and the gap is empty only where
it holds nothing apart. -/
structure Gap (before gap after : String) : Prop where
  reached : ∃ count,
    let scanner := Scanner.afterSteps count (.ofText (before ++ gap ++ after).toList)
    scanner.phase = .seeking ∧ scanner.cursor.location.offset = before.utf8ByteSize ∧
      (Trivia.skip scanner.cursor).location.offset = (before ++ gap).utf8ByteSize
  noSlashes : ¬ ['/', '/'] <+: after.toList
  parts : gap ≠ "" ∨ before = "" ∨ before = "\ufeff" ∨ after = ""

/-- The tokens in front of a gap lead up to it, and the gap is skipped whole. -/
theorem Gap.exists_stretch {before gap after : String} (isGap : Gap before gap after) :
    ∃ passed tokens, leadingMark (before ++ gap ++ after).toList ++ passed = before.toList ∧
      Stretch (gap.toList ++ after.toList) (leadingMark (before ++ gap ++ after).toList) passed
        tokens ∧
      Trivia.skip (.between before.toList (gap.toList ++ after.toList)) =
        .between (before.toList ++ gap.toList) after.toList := by
  obtain ⟨count, seeking, offset, skipped⟩ := isGap.reached
  obtain ⟨tokens, passage⟩ := Scanner.exists_passage_of_afterSteps seeking
  have whole : (before ++ gap ++ after).toList =
      before.toList ++ (gap.toList ++ after.toList) := by simp
  rw [whole] at passage offset skipped ⊢
  rw [← byteSize_toList] at offset skipped
  obtain ⟨reached, passed, front, stretch⟩ := passage.exists_stretch_ofText offset
  rw [reached, String.toList_append] at skipped
  exact ⟨passed, tokens, front, stretch, Trivia.skip_eq_between skipped⟩

/-- A text with blanks in place of a gap has the same items, and only those behind the gap
move. -/
theorem Gap.items_moved {before gap after blanks : String} (isGap : Gap before gap after)
    (nonempty : blanks ≠ "") (blank : ∀ c ∈ blanks.toList, Unicode.isWhitespace c = true) :
    List.Forall₂
      (Item.Moved (movedBehind before.utf8ByteSize gap.utf8ByteSize blanks.utf8ByteSize))
      (ItemStream.ofText (before ++ gap ++ after)).items
      (ItemStream.ofText (before ++ blanks ++ after)).items := by
  obtain ⟨passed, tokens, front, stretch, skipped⟩ := isGap.exists_stretch
  obtain ⟨relative, passed', behind, cause, atEnd, items⟩ := exists_items_behind_gap after.toList
  have whole (middle : String) : (before ++ middle ++ after).toList =
      before.toList ++ (middle.toList ++ after.toList) := by simp
  have passage := stretch.passage_ofText (by rw [front, whole])
  have passage' := stretch.passage_blanks front (whole gap) (by simpa using nonempty) blank
    after.toList
  rw [front] at passage
  rw [← whole] at passage'
  rw [items _ _ _ _ passage skipped,
    items _ _ _ _ passage' (Trivia.skip_blanks skipped isGap.noSlashes blank)]
  rw [← byteSize_toList, ← byteSize_toList gap, ← byteSize_toList blanks]
  refine items_moved_around ?_ ?_ cause
  · intro token member
    rw [← front]
    exact stretch.finish_le_of_mem member
  · have nonempty' : blanks.toList ≠ [] := by simpa using nonempty
    rcases isGap.parts with filled | start | start | finish
    · exact .inr (.inr ⟨by simpa using filled, nonempty'⟩)
    · exact .inl (stretch.eq_nil_of_leadingMark front (whole gap) (.inl (by simp [start])))
    · exact .inl (stretch.eq_nil_of_leadingMark front (whole gap) (.inr (by simp [start])))
    · exact .inr (.inl (atEnd (by simp [finish])))

/-- Blanks make no difference but for offsets: in place of a gap they move the items behind it,
and at the end of a text they move its end. -/
theorem items_of_blanks {blanks : String}
    (blank : ∀ c ∈ blanks.toList, Unicode.isWhitespace c = true) :
    (∀ before gap after : String, blanks ≠ "" → Gap before gap after →
      List.Forall₂
        (Item.Moved (movedBehind before.utf8ByteSize gap.utf8ByteSize blanks.utf8ByteSize))
        (ItemStream.ofText (before ++ gap ++ after)).items
        (ItemStream.ofText (before ++ blanks ++ after)).items) ∧
    ∀ text : String, (ItemStream.ofText (text ++ blanks)).items =
      (ItemStream.ofText text).items.map (Item.withEndMoved blanks.utf8ByteSize) :=
  ⟨fun _ _ _ nonempty isGap => isGap.items_moved nonempty blank, items_append_blanks blank⟩

/-- A comment between a variable name and its colon gives way to a blank, and a blank behind
the text moves its end. -/
theorem items_of_blank_before_colon :
    Gap "$a" "/**/" ":1" ∧
      List.Forall₂
        (Item.Moved (movedBehind "$a".utf8ByteSize "/**/".utf8ByteSize " ".utf8ByteSize))
        (ItemStream.ofText ("$a" ++ "/**/" ++ ":1")).items
        (ItemStream.ofText ("$a" ++ " " ++ ":1")).items ∧
      (ItemStream.ofText ("$a:1" ++ " ")).items =
        (ItemStream.ofText "$a:1").items.map (Item.withEndMoved " ".utf8ByteSize) := by
  have isGap : Gap "$a" "/**/" ":1" := by
    refine ⟨⟨2, ?_⟩, by decide, .inl (by decide)⟩
    decide +kernel
  have blank : ∀ c ∈ " ".toList, Unicode.isWhitespace c = true := by
    intro c member
    obtain rfl : c = ' ' := by simpa using member
    rfl
  obtain ⟨inGap, atEnd⟩ := items_of_blanks blank
  exact ⟨isGap, inGap "$a" "/**/" ":1" (by decide) isGap, atEnd "$a:1"⟩

end StyleLexer
