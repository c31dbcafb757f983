import StyleLexer.Proofs.Blanks
import StyleLexer.Proofs.FaultCauses
import StyleLexer.Proofs.KindShapes

/-!
# Fragments

A `Fragment` is a text that is well formed by itself: a lexeme, a closed comment, a blank or a mark.
`items_of_fragments` says that texts made of fragments are read without a fault, in whatever order
the fragments stand. Lexemes do not end where fragments do, for a name goes on over the words,
numbers, hyphens and underscores behind it; but it takes each of them whole. So what stands behind a
lexeme, or behind an element of trivia, is made of fragments again, and this is the invariant that
carries the proof from the start of the text to its end.
-/

namespace StyleLexer

open Identifier

/-- The marks that leave something open where they stand alone. -/
def openingMarks : List Char :=
  ['/', '#', '$', '@', '\x22', '\x27']

/-- The texts that are well formed wherever they stand. -/
inductive Fragment : List Char → Prop where
  | variableName {name : List Char} (isName : IsName name) : Fragment ('$' :: name)
  | directive {name : List Char} (isName : IsName name) : Fragment ('@' :: name)
  | hashName {name : List Char} (isName : IsName name) : Fragment ('#' :: name)
  | word {text : List Char} (isWord : IsWord text) : Fragment text
  | number {digits : List Char} (nonempty : digits ≠ [])
      (inside : ∀ c ∈ digits, c.isDigit = true) : Fragment digits
  | quoted {quote : Char} {body : List Char} (opens : Quoted.isQuote quote = true)
      (inside : Quoted.Body quote body) : Fragment (quote :: body ++ [quote])
  | interpolation {body : List Char} (inside : Interpolation.Body body) :
      Fragment (['#', '\x7b'] ++ body ++ ['\x7d'])
  /-- A block comment whose first closing mark is the one at its end. -/
  | comment {body : List Char} (closed : ¬ ['*', '/'] <:+: body ++ ['*']) :
      Fragment (['/', '*'] ++ body ++ ['*', '/'])
  | blank {c : Char} (blank : Unicode.isWhitespace c = true) : Fragment [c]
  | mark {c : Char} (mark : Lexeme.isPunctuation c = true) (closed : c ∉ openingMarks) :
      Fragment [c]

/-- The texts that are made of fragments. -/
inductive OfFragments : List Char → Prop where
  | empty : OfFragments []
  | append {fragment later : List Char} (first : Fragment fragment) (more : OfFragments later) :
      OfFragments (fragment ++ later)

/-- Fragments one behind the other make up such a text. -/
theorem OfFragments.of_forall {fragments : List String}
    (each : ∀ fragment ∈ fragments, Fragment fragment.toList) :
    OfFragments (String.join fragments).toList := by
  induction fragments with
  | nil => exact .empty
  | cons fragment fragments inductionHypothesis =>
      obtain ⟨first, others⟩ := List.forall_mem_cons.mp each
      rw [String.join_cons, String.toList_append]
      exact .append first (inductionHypothesis others)

section Uniformity

variable {p : Char → Bool}

/-- All of the text belongs to a class of characters, or its first character does not. -/
def Uniform (p : Char → Bool) (text : List Char) : Prop :=
  (∀ c ∈ text, p c = true) ∨ ∃ c later, text = c :: later ∧ p c = false

theorem uniform_singleton (p : Char → Bool) (c : Char) : Uniform p [c] := by
  cases belongs : p c with
  | true => exact .inl (List.forall_mem_singleton.mpr belongs)
  | false => exact .inr ⟨c, [], rfl, belongs⟩

/-- Where no mark that opens something belongs to the class, only words and numbers matter. -/
theorem Fragment.uniform {text : List Char} (fragment : Fragment text)
    (marks : openingMarks.any p = false)
    (words : ∀ text, IsWord text → Uniform p text)
    (numbers : ∀ digits, (∀ c ∈ digits, c.isDigit = true) → Uniform p digits) :
    Uniform p text := by
  have opening {c : Char} {later : List Char} (member : c ∈ openingMarks) :
      Uniform p (c :: later) :=
    .inr ⟨c, later, rfl, by simpa using List.any_eq_false.mp marks c member⟩
  cases fragment with
  | variableName isName => exact opening (by decide)
  | directive isName => exact opening (by decide)
  | hashName isName => exact opening (by decide)
  | word isWord => exact words text isWord
  | number nonempty inside => exact numbers text inside
  | quoted opens inside =>
      obtain rfl | rfl := Quoted.isQuote_iff.mp opens
      · exact opening (by decide)
      · exact opening (by decide)
  | interpolation inside => exact opening (by decide)
  | comment closed => exact opening (by decide)
  | blank blank => exact uniform_singleton p _
  | mark mark closed => exact uniform_singleton p _

/-- A name takes a fragment whole or stops in front of it. -/
theorem Fragment.uniform_isPart {text : List Char} (fragment : Fragment text) :
    Uniform isPart text := by
  refine fragment.uniform (by decide +kernel) ?_ ?_
  · exact fun _ isWord => .inl isWord.1.2
  · exact fun _ inside => .inl fun c member => isPart_of_isDigit (inside c member)

/-- A number takes a fragment whole or stops in front of it. -/
theorem Fragment.uniform_isDigit {text : List Char} (fragment : Fragment text) :
    Uniform Char.isDigit text := by
  refine fragment.uniform (by decide) ?_ ?_
  · rintro word ⟨⟨nonempty, _⟩, start⟩
    obtain ⟨first, later, rfl⟩ := List.exists_cons_of_ne_nil nonempty
    refine .inr ⟨first, later, rfl, Bool.eq_false_iff.mpr ?_⟩
    intro digit
    cases (start first rfl).symm.trans (isStart_of_isDigit digit)
  · exact fun _ inside => .inl inside

/-- Behind the longest run of a class that takes fragments whole the text is made of fragments
again. -/
theorem OfFragments.dropWhile (uniform : ∀ {fragment}, Fragment fragment → Uniform p fragment)
    {text : List Char} (made : OfFragments text) : OfFragments (text.dropWhile p) := by
  induction made with
  | empty => exact .empty
  | @append fragment later first more inductionHypothesis =>
      rcases uniform first with inside | ⟨c, behind, rfl, outside⟩
      · rwa [List.dropWhile_append_of_pos inside]
      · rw [List.cons_append, List.dropWhile_cons_of_neg (by simp [outside])]
        exact .append first more

end Uniformity

/-- A mark opens something, or it is an underscore, or it stands alone. -/
theorem Lexeme.standsAlone_of_isPunctuation {c : Char} (mark : isPunctuation c = true)
    (closed : c ∉ openingMarks) : c = '_' ∨ standsAlone c = true := by
  have small : c.toNat < 0x7F := by
    simp only [isPunctuation, Bool.or_eq_true, Bool.and_eq_true, decide_eq_true_eq] at mark
    omega
  have marks : ∀ point < 0x7F, isPunctuation (.ofNat point) = true →
      Char.ofNat point ∉ openingMarks →
        Char.ofNat point = '_' ∨ standsAlone (.ofNat point) = true := by
    decide +kernel
  have found := marks c.toNat small
  rw [Char.ofNat_toNat] at found
  exact found mark closed

/-- No lexeme begins with a blank. -/
theorem Lexeme.isWhitespace_of_fits {lexeme : Lexeme} {first : Char} {text rest : List Char}
    (fits : lexeme.Fits rest) (whole : first :: text = lexeme.source ++ rest) :
    Unicode.isWhitespace first = false := by
  apply Bool.eq_false_iff.mpr
  intro blank
  have read := read_of_fits fits whole
  have stray := read_of_stray (Unicode.isAlphabetic_of_isWhitespace blank)
    (isDigit_of_isWhitespace blank) (isPunctuation_of_isWhitespace blank) text
  cases stray.symm.trans read

namespace OfFragments

/-- What a text that is made of fragments begins with, in front of another such text. -/
inductive Begins : List Char → Prop where
  | nothing : Begins []
  | trivia (element : Trivia.Element) {rest : List Char}
      (fits : ∀ front, element.Fits front rest) (more : OfFragments rest) :
      Begins (element.source ++ rest)
  | lexeme (lexeme : Lexeme) {rest : List Char}
      (clear : ∀ front, Trivia.opens front (lexeme.source ++ rest) = false)
      (fits : lexeme.Fits rest) (more : OfFragments rest) : Begins (lexeme.source ++ rest)

section Begins

variable {later : List Char}

/-- A lexeme that does not begin with a slash. -/
theorem Begins.of_lexeme (lexeme : Lexeme) {text : List Char} {c : Char}
    (whole : c :: text = lexeme.source ++ later) (notSlash : c ≠ '/') (fits : lexeme.Fits later)
    (more : OfFragments later) : Begins (c :: text) := by
  have dark := Lexeme.isWhitespace_of_fits fits whole
  rw [whole]
  refine .lexeme lexeme ?_ fits more
  intro front
  simp [← whole, Trivia.opens, dark, notSlash]

/-- A name goes on over the name behind it. -/
theorem isName_append {first : List Char} (isName : IsName first) (text : List Char) :
    IsName (first ++ name text) := by
  refine ⟨by simp [isName.1], ?_⟩
  intro c member
  rcases List.mem_append.mp member with inFirst | inName
  · exact isName.2 c inFirst
  · exact isPart_of_mem_name inName

theorem append_name_append (first text : List Char) :
    first ++ name text ++ behindName text = first ++ text := by
  rw [List.append_assoc, name_append_behindName]

/-- A sign with a name, and with all that goes on with the name. -/
theorem begins_signed {sign : Char} {text : List Char} (lexeme : List Char → Lexeme)
    (source : ∀ name, (lexeme name).source = sign :: name)
    (fits : ∀ {name rest}, IsName name → StopsName rest → (lexeme name).Fits rest)
    (notSlash : sign ≠ '/') (isName : IsName text) (more : OfFragments later) :
    Begins (sign :: text ++ later) := by
  refine .of_lexeme (lexeme (text ++ name later)) ?_ notSlash
    (fits (isName_append isName later) (stopsName_behindName later))
    (more.dropWhile Fragment.uniform_isPart)
  rw [source, List.cons_append]
  exact congrArg _ (append_name_append text later).symm

/-- A word, with all that goes on with it. -/
theorem begins_word {text : List Char} (isWord : IsWord text) (more : OfFragments later) :
    Begins (text ++ later) := by
  obtain ⟨isName, start⟩ := isWord
  obtain ⟨first, text, rfl⟩ := List.exists_cons_of_ne_nil isName.1
  have notSlash : first ≠ '/' := by
    rintro rfl
    cases start '/' rfl
  refine .of_lexeme (.word (first :: text ++ name later)) ?_ notSlash
    ⟨isName_append isName later, start, stopsName_behindName later⟩
    (more.dropWhile Fragment.uniform_isPart)
  exact (append_name_append (first :: text) later).symm

/-- A number, with the digits that go on with it. -/
theorem begins_number {digits : List Char} (nonempty : digits ≠ [])
    (inside : ∀ c ∈ digits, c.isDigit = true) (more : OfFragments later) :
    Begins (digits ++ later) := by
  obtain ⟨first, digits, rfl⟩ := List.exists_cons_of_ne_nil nonempty
  have notSlash : first ≠ '/' := by
    rintro rfl
    cases inside '/' List.mem_cons_self
  refine .of_lexeme (.number (first :: digits ++ later.takeWhile Char.isDigit)) ?_ notSlash
    ⟨by simp, ?_, fun _ => stop_of_dropWhile⟩ (more.dropWhile Fragment.uniform_isDigit)
  · rw [Lexeme.source, List.append_assoc, List.takeWhile_append_dropWhile]
    rfl
  · intro c member
    rcases List.mem_append.mp member with inFirst | inLater
    · exact inside c inFirst
    · exact List.all_eq_true.mp List.all_takeWhile c inLater

/-- A mark is a symbol, or an underscore with the name that goes on with it. -/
theorem begins_mark {c : Char} (mark : Lexeme.isPunctuation c = true) (closed : c ∉ openingMarks)
    (more : OfFragments later) : Begins ([c] ++ later) := by
  rcases Lexeme.standsAlone_of_isPunctuation mark closed with rfl | alone
  · refine begins_word ⟨⟨by simp, ?_⟩, ?_⟩ more
    · exact List.forall_mem_singleton.mpr rfl
    · rintro c head
      obtain rfl := Option.some.inj head
      rfl
  · have notSlash : c ≠ '/' := by
      rintro rfl
      exact closed (by decide)
    exact .of_lexeme (.symbol c) rfl notSlash (Lexeme.fits_of_standsAlone alone later) more

/-- A fragment in front of a text that is made of fragments. -/
theorem begins_fragment {fragment : List Char} (first : Fragment fragment)
    (more : OfFragments later) : Begins (fragment ++ later) := by
  cases first with
  | variableName isName =>
      exact begins_signed .variableName (fun _ => rfl) And.intro (by decide) isName more
  | directive isName =>
      exact begins_signed .directive (fun _ => rfl) And.intro (by decide) isName more
  | hashName isName =>
      exact begins_signed .hashName (fun _ => rfl) And.intro (by decide) isName more
  | word isWord => exact begins_word isWord more
  | number nonempty inside => exact begins_number nonempty inside more
  | @quoted quote body opens inside =>
      have notSlash : quote ≠ '/' := by
        rintro rfl
        cases opens
      exact .of_lexeme (.quoted quote body) rfl notSlash ⟨opens, inside⟩ more
  | @interpolation body inside =>
      exact .of_lexeme (.interpolation body) rfl (by decide) inside more
  | @comment body closed => exact .trivia (.blockComment body) (fun _ => closed) more
  | @blank c blank => exact .trivia (.blank c) (fun _ => blank) more
  | mark mark closed => exact begins_mark mark closed more

/-- A text that is made of fragments begins with trivia or with a lexeme, unless it is empty. -/
theorem begins {text : List Char} (made : OfFragments text) : Begins text := by
  cases made with
  | empty => exact .nothing
  | append first more => exact begins_fragment first more

end Begins

/-- Behind an element of trivia the text is made of fragments again. -/
theorem of_first? {front : Option Char} {text rest : List Char} {element : Trivia.Element}
    (made : OfFragments text) (found : Trivia.first? front text = some (element, rest)) :
    OfFragments rest := by
  cases made.begins with
  | nothing => cases found
  | trivia _ fits more =>
      obtain ⟨_, rfl⟩ :=
        Prod.mk.inj (Option.some.inj ((Trivia.first?_source_append (fits front)).symm.trans found))
      exact more
  | lexeme _ clear fits more =>
      cases (Trivia.opens_eq_false_iff.mp (clear front)).1.symm.trans found

/-- Behind all of its trivia as well. -/
theorem skip {cursor : Cursor} (made : OfFragments cursor.rest) :
    OfFragments (Trivia.skip cursor).rest := by
  fun_induction Trivia.skip cursor with
  | case1 cursor stops => exact made
  | case2 cursor element rest found inductionHypothesis =>
      exact inductionHypothesis (made.of_first? found)

/-- Where no trivia is to be passed, such a text ends, or a lexeme stands in front of another such
text. -/
theorem finding {cursor : Cursor} (made : OfFragments cursor.rest)
    (stops : Trivia.first? cursor.previous cursor.rest = none) :
    cursor.finding = .stop none ∨
      ∃ lexeme rest, cursor.finding = .lexeme lexeme rest ∧ OfFragments rest := by
  generalize whole : cursor.rest = text at made stops
  cases made.begins with
  | nothing => exact .inl (Cursor.finding_eq_stop_none_iff.mpr whole)
  | trivia _ fits more =>
      cases (Trivia.first?_source_append (fits cursor.previous)).symm.trans stops
  | @lexeme lexeme rest clear fits more =>
      obtain ⟨_, noComment⟩ := Trivia.opens_eq_false_iff.mp (clear cursor.previous)
      have found : cursor.finding = .lexeme lexeme rest :=
        Cursor.finding_eq_lexeme_iff.mpr ⟨whole ▸ noComment, whole, fits⟩
      exact .inr ⟨lexeme, rest, found, more⟩

/-- Reading on leads from one such text to another. -/
theorem passage {first last : Cursor} {tokens : List Token} (passage : Passage first tokens last)
    (made : OfFragments first.rest) : OfFragments last.rest := by
  induction passage with
  | here => exact made
  | @more cursor last lexeme rest tokens found later inductionHypothesis =>
      apply inductionHypothesis
      rcases made.skip.finding (Trivia.first?_skip cursor) with stop | ⟨_, _, found', more⟩
      · cases found.symm.trans stop
      · cases found.symm.trans found'
        exact more

/-- No such text begins with a byte order mark, so it is read from its start. -/
theorem rest_ofText {text : List Char} (made : OfFragments text) :
    (Cursor.ofText text).rest = text := by
  have unmarked : text.head? ≠ some '\ufeff' := by
    intro marked
    obtain ⟨rest, rfl⟩ := List.head?_eq_some_iff.mp marked
    -- Were the mark not passed, it would be a stray character, and fragments never stop at one.
    have stray : (Cursor.between [] ('\ufeff' :: rest)).finding =
        .stop (some (.strayCharacter '\ufeff')) :=
      (Cursor.finding_eq_stop_some_iff rfl).mpr ⟨rest, rfl, .inr (by decide +kernel)⟩
    have start : OfFragments (Cursor.between [] ('\ufeff' :: rest)).rest := made
    rcases start.finding rfl with stop | ⟨_, _, found, _⟩
    · cases stop.symm.trans stray
    · cases found.symm.trans stray
  obtain ⟨rest, whole, opened⟩ := Cursor.exists_ofText text
  rw [leadingMark_of_head? unmarked] at whole
  rw [opened, Cursor.between_rest]
  exact whole.symm

end OfFragments

/-- Texts that are made of fragments are read without a fault. -/
theorem items_of_fragments {fragments : List String}
    (each : ∀ fragment ∈ fragments, Fragment fragment.toList) :
    ∃ found, items (String.join fragments) = .ok found := by
  have made := OfFragments.of_forall each
  have start : OfFragments (Cursor.ofText (String.join fragments).toList).rest := by
    rwa [made.rest_ofText]
  obtain ⟨tokens, last, cause, passage, stops⟩ :=
    exists_passage (Cursor.ofText (String.join fragments).toList)
  have outcome := Scanner.items_of_passage passage stops .initial
  rcases (start.passage passage).skip.finding (Trivia.first?_skip last) with stop | ⟨_, _, found, _⟩
  · cases stops.symm.trans stop
    exact ⟨_, outcome⟩
  · cases stops.symm.trans found

/-- A variable with a number and a word behind it is one lexeme that is made of four fragments. -/
theorem items_of_merging_fragments :
    (∀ fragment ∈ ["$a", "-", "12", "px", "/* ; */", "#{b}", "'/*'", "*"],
        Fragment fragment.toList) ∧
      ∃ found, items (String.join ["$a", "-", "12", "px", "/* ; */", "#{b}", "'/*'", "*"]) =
        .ok found := by
  have isWord : IsWord ['p', 'x'] := by
    refine ⟨⟨by decide, List.all_eq_true.mp (by decide +kernel)⟩, ?_⟩
    rintro c head
    obtain rfl := Option.some.inj head
    rfl
  have isName : IsName ['a'] := ⟨by decide, List.all_eq_true.mp (by decide +kernel)⟩
  have number : Fragment ['1', '2'] := .number (by decide) (List.all_eq_true.mp (by decide))
  have comment : Fragment (['/', '*'] ++ [' ', ';', ' '] ++ ['*', '/']) := .comment (by decide)
  have interpolation : Interpolation.Body ['b'] := .plain (by decide) (by decide) rfl .empty
  have quoted : Quoted.Body '\x27' ['/', '*'] :=
    .plain (by decide) (by decide) (.plain (by decide) (by decide) .empty)
  have each : ∀ fragment ∈ ["$a", "-", "12", "px", "/* ; */", "#{b}", "'/*'", "*"],
      Fragment fragment.toList := by
    simp only [List.forall_mem_cons]
    refine ⟨.variableName isName, .mark rfl (by decide), number, .word isWord, comment,
      .interpolation interpolation, .quoted rfl quoted, .mark rfl (by decide), nofun⟩
  exact ⟨each, items_of_fragments each⟩

end StyleLexer
