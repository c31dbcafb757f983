import StyleLexer.Lexeme.Reading
import StyleLexer.Proofs.ScanEnds

/-!
# The shape of lexemes

`Lexeme.Fits` is the grammar of lexemes: which ones there are, and which texts may stand
behind each. `Lexeme.read_eq_ok_iff` says that reading returns the lexeme that fits and no
other; `Category.opening_eq_iff` says that the categories exclude each other, so that the
order in which they are tested decides nothing.
-/

namespace StyleLexer

namespace Identifier

/-- A text that is one name. -/
def IsName (text : List Char) : Prop :=
  text ≠ [] ∧ ∀ c ∈ text, isPart c = true

/-- A text into which no name goes on. -/
def StopsName (text : List Char) : Prop :=
  ∀ c, text.head? = some c → isPart c = false

/-- A name is read whole where it stops. -/
theorem name_append {text rest : List Char} (inside : ∀ c ∈ text, isPart c = true)
    (stop : StopsName rest) : name (text ++ rest) = text ∧ behindName (text ++ rest) = rest :=
  takeWhile_eq_of_stop inside stop

/-- Every name that is read stops where reading stops. -/
theorem stopsName_behindName (text : List Char) : StopsName (behindName text) :=
  fun _ behind => isPart_head_behindName behind

/-- Where a name stops, no name begins. -/
theorem stopsName_iff {text : List Char} : StopsName text ↔ name text = [] := by
  cases text with
  | nil => simp [StopsName, name]
  | cons c text => simp [StopsName, name, List.takeWhile_cons]

/-- A decimal digit opens no identifier. -/
theorem isStart_of_isDigit {c : Char} (digit : c.isDigit = true) : isStart c = false := by
  simp only [Char.isDigit, Bool.and_eq_true, decide_eq_true_eq] at digit
  have low : c.toNat < 0x41 := Nat.lt_of_le_of_lt digit.2 (by decide)
  have noLetter : Unicode.isAlphabetic c = false := by
    unfold Unicode.isAlphabetic Unicode.alphabeticRanges
    rw [Unicode.CodeRange.covers, if_pos low]
  have noUnderscore : c ≠ '_' := by
    rintro rfl
    exact absurd low (by decide)
  simp [isStart, noLetter, noUnderscore]

end Identifier

/-- There are two quotes. -/
theorem Quoted.isQuote_iff {c : Char} : isQuote c = true ↔ c = '\x22' ∨ c = '\x27' := by
  simp [isQuote]

namespace Category

/-- What `first` in front of `text` has to be like for each category. -/
def Opens (first : Char) (text : List Char) : Category → Prop
  | variableName => first = '$'
  | interpolation => first = '#' ∧ text.head? = some '\x7b'
  | quoted => Quoted.isQuote first = true
  | number => first.isDigit = true
  | directive => first = '@'
  | word => Identifier.isStart first = true
  | symbol =>
      first ≠ '$' ∧ ¬ (first = '#' ∧ text.head? = some '\x7b') ∧
        Quoted.isQuote first = false ∧ first.isDigit = false ∧ first ≠ '@' ∧
          Identifier.isStart first = false

/-- The category that is found opens as its rule says. -/
theorem opens_opening (first : Char) (text : List Char) :
    (opening first text).Opens first text := by
  unfold opening
  split
  · assumption
  split
  · assumption
  split
  · assumption
  split
  · assumption
  split
  · assumption
  split
  · assumption
  · simp_all [Opens]

/-- No two categories open alike. -/
theorem opening_eq_of_opens {first : Char} {text : List Char} {category : Category}
    (opens : category.Opens first text) : opening first text = category := by
  cases category with
  | variableName => simp_all [Opens, opening]
  | interpolation => simp_all [Opens, opening]
  | quoted =>
      obtain rfl | rfl := Quoted.isQuote_iff.mp opens
      · rfl
      · rfl
  | number =>
      have digit : first.isDigit = true := opens
      have notDollar : first ≠ '$' := by rintro rfl; cases digit
      have notHash : first ≠ '#' := by rintro rfl; cases digit
      have notQuote : Quoted.isQuote first ≠ true := by
        intro quote
        obtain rfl | rfl := Quoted.isQuote_iff.mp quote
        · cases digit
        · cases digit
      simp [opening, notDollar, notHash, notQuote, digit]
  | directive =>
      obtain rfl : first = '@' := opens
      rfl
  | word =>
      have start : Identifier.isStart first = true := opens
      have notDollar : first ≠ '$' := by rintro rfl; cases start
      have notHash : first ≠ '#' := by rintro rfl; cases start
      have notAt : first ≠ '@' := by rintro rfl; cases start
      have notQuote : Quoted.isQuote first ≠ true := by
        intro quote
        obtain rfl | rfl := Quoted.isQuote_iff.mp quote
        · cases start
        · cases start
      have notDigit : first.isDigit ≠ true := by
        intro digit
        cases start.symm.trans (Identifier.isStart_of_isDigit digit)
      simp [opening, notDollar, notHash, notAt, notQuote, notDigit, start]
  | symbol =>
      obtain ⟨notDollar, notInterpolation, notQuote, notDigit, notAt, notStart⟩ := opens
      simp [opening, notDollar, notInterpolation, notQuote, notDigit, notAt, notStart]

/-- The order in which the categories are tested decides nothing. -/
theorem opening_eq_iff {first : Char} {text : List Char} {category : Category} :
    opening first text = category ↔ category.Opens first text := by
  constructor
  · rintro rfl
    exact opens_opening first text
  · exact opening_eq_of_opens

/-- A character that is no letter, no digit and no mark is read as a symbol. -/
theorem opening_eq_symbol {c : Char} (noLetter : Unicode.isAlphabetic c = false)
    (noDigit : c.isDigit = false) (noMark : Lexeme.isPunctuation c = false) (text : List Char) :
    opening c text = .symbol := by
  have other (d : Char) (mark : Lexeme.isPunctuation d = true) : c ≠ d := by
    rintro rfl
    cases noMark.symm.trans mark
  refine opening_eq_of_opens ⟨other '$' rfl, ?_, ?_, noDigit, other '@' rfl, ?_⟩
  · exact fun interpolation => other '#' rfl interpolation.1
  · simp [Quoted.isQuote, other '\x22' rfl, other '\x27' rfl]
  · simp [Identifier.isStart, noLetter, other '_' rfl]

end Category

namespace Lexeme

open Identifier

/-- The lexemes that may stand in front of `rest`. -/
def Fits (rest : List Char) : Lexeme → Prop
  | variableName name => IsName name ∧ StopsName rest
  | interpolation body => Interpolation.Body body
  | quoted quote body => Quoted.isQuote quote = true ∧ Quoted.Body quote body
  | number digits =>
      digits ≠ [] ∧ (∀ c ∈ digits, c.isDigit = true) ∧
        ∀ c, rest.head? = some c → c.isDigit = false
  | directive name => IsName name ∧ StopsName rest
  | word text =>
      IsName text ∧ (∀ c, text.head? = some c → isStart c = true) ∧ StopsName rest
  | hashName name => IsName name ∧ StopsName rest
  | symbol c =>
      isPunctuation c = true ∧ Category.Opens c rest .symbol ∧ (c = '#' → StopsName rest)

/-- A lexeme that is read fits where it stands. -/
theorem fits_of_read {first : Char} {text rest : List Char} {lexeme : Lexeme}
    (reading : read first text = .ok (lexeme, rest)) : lexeme.Fits rest := by
  have isName : ∀ text, ¬ (name text).isEmpty = true → IsName (name text) := by
    intro text nonempty
    exact ⟨fun empty => nonempty (by rw [empty]; rfl), fun _ => isPart_of_mem_name⟩
  unfold read at reading
  split at reading
  · split at reading
    · cases reading
    · rename_i nonempty
      cases reading
      exact ⟨isName text nonempty, stopsName_behindName text⟩
  · split at reading
    · rename_i body rest split
      cases reading
      exact (Interpolation.split?_eq_some_iff.mp split).2
    · cases reading
  · rename_i opens
    have quote : Quoted.isQuote first = true := Category.opening_eq_iff.mp opens
    split at reading
    · rename_i body rest split
      cases reading
      exact ⟨quote, Quoted.body_of_split? split⟩
    · cases reading
  · rename_i opens
    have digit : first.isDigit = true := Category.opening_eq_iff.mp opens
    cases reading
    refine ⟨by simp, ?_, fun _ => stop_of_dropWhile⟩
    intro c member
    obtain rfl | later := List.mem_cons.mp member
    · exact digit
    · exact List.all_eq_true.mp List.all_takeWhile c later
  · split at reading
    · cases reading
    · rename_i nonempty
      cases reading
      exact ⟨isName text nonempty, stopsName_behindName text⟩
  · rename_i opens
    have start : isStart first = true := Category.opening_eq_iff.mp opens
    cases reading
    refine ⟨⟨by simp, ?_⟩, by simpa using start, stopsName_behindName text⟩
    intro c member
    obtain rfl | later := List.mem_cons.mp member
    · exact isPart_of_isStart start
    · exact isPart_of_mem_name later
  · rename_i opens
    split at reading
    · rename_i hash
      cases reading
      exact ⟨isName text (by simp [hash.2]), stopsName_behindName text⟩
    · rename_i notName
      split at reading
      · rename_i mark
        cases reading
        refine ⟨mark, Category.opening_eq_iff.mp opens, ?_⟩
        intro hash
        rw [stopsName_iff]
        simpa [hash] using notName
      · cases reading

/-- A lexeme that fits is read. -/
theorem read_of_fits {first : Char} {text rest : List Char} {lexeme : Lexeme}
    (fits : lexeme.Fits rest) (whole : first :: text = lexeme.source ++ rest) :
    read first text = .ok (lexeme, rest) := by
  cases lexeme with
  | variableName name' =>
      obtain ⟨⟨nonempty, inside⟩, stop⟩ := fits
      obtain ⟨rfl, rfl⟩ := List.cons.inj whole
      have category : Category.opening '$' (name' ++ rest) = .variableName := rfl
      obtain ⟨named, behind⟩ := name_append inside stop
      simp [read, category, named, behind, nonempty]
  | interpolation body =>
      obtain ⟨rfl, rfl⟩ : first = '#' ∧ text = '\x7b' :: (body ++ '\x7d' :: rest) := by
        simpa [source] using whole
      have category : Category.opening '#' ('\x7b' :: (body ++ '\x7d' :: rest)) =
          .interpolation := rfl
      have split : Interpolation.split? 0 (body ++ '\x7d' :: rest) = some (body, rest) :=
        Interpolation.split?_eq_some_iff.mpr ⟨rfl, fits⟩
      simp [read, category, split]
  | quoted quote body =>
      obtain ⟨opens, inside⟩ := fits
      obtain ⟨rfl, rfl⟩ : first = quote ∧ text = body ++ quote :: rest := by
        simpa [source] using whole
      have category : Category.opening first (body ++ first :: rest) = .quoted :=
        Category.opening_eq_of_opens opens
      have split := Quoted.split?_append (Quoted.ne_backslash_of_isQuote opens) inside rest
      simp [read, category, split]
  | number digits =>
      obtain ⟨nonempty, inside, stop⟩ := fits
      cases digits with
      | nil => exact absurd rfl nonempty
      | cons digit digits =>
          obtain ⟨rfl, rfl⟩ := List.cons.inj whole
          have category : Category.opening first (digits ++ rest) = .number :=
            Category.opening_eq_of_opens (inside first List.mem_cons_self)
          have later : ∀ c ∈ digits, c.isDigit = true :=
            fun c member => inside c (List.mem_cons_of_mem _ member)
          obtain ⟨taken, dropped⟩ := takeWhile_eq_of_stop later stop
          simp [read, category, taken, dropped]
  | directive name' =>
      obtain ⟨⟨nonempty, inside⟩, stop⟩ := fits
      obtain ⟨rfl, rfl⟩ := List.cons.inj whole
      have category : Category.opening '@' (name' ++ rest) = .directive := rfl
      obtain ⟨named, behind⟩ := name_append inside stop
      simp [read, category, named, behind, nonempty]
  | word word' =>
      obtain ⟨⟨nonempty, inside⟩, start, stop⟩ := fits
      cases word' with
      | nil => exact absurd rfl nonempty
      | cons c name' =>
          obtain ⟨rfl, rfl⟩ := List.cons.inj whole
          have category : Category.opening first (name' ++ rest) = .word :=
            Category.opening_eq_of_opens (start first rfl)
          have later : ∀ c ∈ name', isPart c = true :=
            fun c member => inside c (List.mem_cons_of_mem _ member)
          obtain ⟨named, behind⟩ := name_append later stop
          simp [read, category, named, behind]
  | hashName name' =>
      obtain ⟨⟨nonempty, inside⟩, stop⟩ := fits
      obtain ⟨rfl, rfl⟩ := List.cons.inj whole
      have noBrace : (name' ++ rest).head? ≠ some '\x7b' := by
        cases name' with
        | nil => exact absurd rfl nonempty
        | cons c name' =>
            intro head
            obtain rfl : c = '\x7b' := by simpa using head
            cases inside '\x7b' List.mem_cons_self
      have category : Category.opening '#' (name' ++ rest) = .symbol := by
        refine Category.opening_eq_of_opens ⟨by decide, ?_, by decide, by decide, by decide, ?_⟩
        · exact fun brace => noBrace brace.2
        · rfl
      obtain ⟨named, behind⟩ := name_append inside stop
      simp [read, category, named, behind, nonempty]
  | symbol c =>
      obtain ⟨mark, opens, noName⟩ := fits
      obtain ⟨rfl, rfl⟩ := List.cons.inj whole
      have category : Category.opening first text = .symbol :=
        Category.opening_eq_of_opens opens
      have unnamed : first = '#' → name text = [] := fun hash => stopsName_iff.mp (noName hash)
      simpa [read, category, mark] using unnamed

/-- Reading returns the lexeme that fits at the front of a text. -/
theorem read_eq_ok_iff {first : Char} {text rest : List Char} {lexeme : Lexeme} :
    read first text = .ok (lexeme, rest) ↔
      first :: text = lexeme.source ++ rest ∧ lexeme.Fits rest := by
  constructor
  · intro reading
    obtain ⟨later, source, whole⟩ := source_of_read reading
    exact ⟨by rw [source, List.cons_append, whole], fits_of_read reading⟩
  · rintro ⟨whole, fits⟩
    exact read_of_fits fits whole

/-- A mark that is a symbol in front of every text. -/
def standsAlone (c : Char) : Bool :=
  isPunctuation c && Category.opening c [] == .symbol && c != '#'

/-- Only the hash depends on what is behind it. -/
theorem fits_of_standsAlone {c : Char} (alone : standsAlone c = true) (rest : List Char) :
    (symbol c).Fits rest := by
  simp only [standsAlone, Bool.and_eq_true, beq_iff_eq, bne_iff_ne] at alone
  obtain ⟨⟨mark, category⟩, notHash⟩ := alone
  obtain ⟨notDollar, _, others⟩ := Category.opening_eq_iff.mp category
  refine ⟨mark, ⟨notDollar, ?_, others⟩, ?_⟩
  · exact fun hash => notHash hash.1
  · exact fun hash => absurd hash notHash

end Lexeme

end StyleLexer
