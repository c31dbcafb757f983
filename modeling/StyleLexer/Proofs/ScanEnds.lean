import StyleLexer.Interpolation
import StyleLexer.Trivia

/-!
# Where scans end

A longest run, a block comment, a quoted run and the body of an interpolation each end at
one place that can be said without the scan: there are laws for which splits of a text a scan
returns, and for when it returns none. None of the scans looks at the text behind that place,
apart from the one character that stops a longest run. Where a text has left braces open,
`Interpolation.Opens.closes_iff` says what has to stand behind it.
-/

namespace StyleLexer

section LongestRun

variable {p : Char → Bool} {run rest : List Char}

/-- The characters of a longest run all belong, and the one behind it does not. -/
theorem takeWhile_eq_of_stop (inside : ∀ c ∈ run, p c = true)
    (stop : ∀ c, rest.head? = some c → p c = false) :
    (run ++ rest).takeWhile p = run ∧ (run ++ rest).dropWhile p = rest := by
  rw [List.takeWhile_append_of_pos inside, List.dropWhile_append_of_pos inside]
  cases rest with
  | nil => simp
  | cons c rest => simp [stop c rfl]

/-- The character behind a longest run does not belong to it. -/
theorem stop_of_dropWhile {text : List Char} {c : Char}
    (behind : (text.dropWhile p).head? = some c) : p c = false := by
  have stops := List.head?_dropWhile_not p text
  rw [behind] at stops
  simpa using stops

end LongestRun

namespace Trivia

/-- The body of a comment holds no closing mark. -/
theorem not_close_of_splitAtClose? {text body rest : List Char}
    (split : splitAtClose? text = some (body, rest)) : ¬ ['*', '/'] <:+: body ++ ['*'] := by
  fun_induction splitAtClose? text generalizing body with
  | case1 => cases split
  | case2 text =>
      simp only [Option.some.injEq, Prod.mk.injEq] at split
      obtain ⟨rfl, rfl⟩ := split
      decide
  | case3 c text notClose inductionHypothesis =>
      simp only [Option.map_eq_some_iff, Prod.exists, Prod.mk.injEq] at split
      obtain ⟨inner, after, found, rfl, rfl⟩ := split
      rw [List.cons_append, List.infix_cons_iff, not_or]
      refine ⟨?_, inductionHypothesis found⟩
      intro early
      obtain ⟨same, head⟩ := List.cons_prefix_cons.mp early
      have whole := append_of_splitAtClose? found
      cases inner with
      | nil => simp at head
      | cons d inner =>
          have slash := (List.cons_prefix_cons.mp head).1
          rw [← slash, List.cons_append] at whole
          exact notClose _ same.symm whole.symm

/-- A body without a closing mark is read whole. -/
theorem splitAtClose?_append {body rest : List Char}
    (notClose : ¬ ['*', '/'] <:+: body ++ ['*']) :
    splitAtClose? (body ++ '*' :: '/' :: rest) = some (body, rest) := by
  induction body with
  | nil => rfl
  | cons c body inductionHypothesis =>
      rw [List.cons_append, List.infix_cons_iff, not_or] at notClose
      have noMark : ∀ text, c = '*' → body ++ '*' :: '/' :: rest = '/' :: text → False := by
        rintro text rfl slash
        cases body with
        | nil => simp at slash
        | cons d body =>
            obtain ⟨rfl, _⟩ := List.cons.inj slash
            exact notClose.1 (by simp)
      rw [List.cons_append, splitAtClose?.eq_3 _ _ noMark, inductionHypothesis notClose.2]
      rfl

/-- No comment is closed where the closing mark never stands. -/
theorem splitAtClose?_eq_none_iff {text : List Char} :
    splitAtClose? text = none ↔ ¬ ['*', '/'] <:+: text := by
  fun_induction splitAtClose? text with
  | case1 => simp
  | case2 text => simp [List.infix_cons_iff]
  | case3 c text notClose inductionHypothesis =>
      have noMark : ¬ ['*', '/'] <+: c :: text := by
        rintro ⟨rest, whole⟩
        obtain ⟨mark, later⟩ := List.cons.inj whole
        exact notClose rest mark.symm later.symm
      rw [Option.map_eq_none_iff, inductionHypothesis, List.infix_cons_iff, not_or]
      exact (and_iff_right noMark).symm

/-- No element is found at a block comment that nothing closes. -/
theorem first?_comment_eq_none_iff {front : Option Char} {text : List Char} :
    first? front ('/' :: '*' :: text) = none ↔ ¬ ['*', '/'] <:+: text := by
  rw [first?, Option.map_eq_none_iff, splitAtClose?_eq_none_iff]

end Trivia

namespace Quoted

/-- What stands in front of the closing quote is a body. -/
theorem body_of_split? {quote : Char} {text body rest : List Char}
    (split : split? quote text = some (body, rest)) : Body quote body := by
  fun_induction split? quote text generalizing body with
  | case1 => cases split
  | case2 => cases split
  | case3 c text inductionHypothesis =>
      simp only [Option.map_eq_some_iff, Prod.exists, Prod.mk.injEq] at split
      obtain ⟨inner, after, found, rfl, rfl⟩ := split
      exact .escaped c (inductionHypothesis found)
  | case4 text =>
      simp only [Option.some.injEq, Prod.mk.injEq] at split
      obtain ⟨rfl, rfl⟩ := split
      exact .empty
  | case5 c text notLast notPair notQuote inductionHypothesis =>
      simp only [Option.map_eq_some_iff, Prod.exists, Prod.mk.injEq] at split
      obtain ⟨inner, after, found, rfl, rfl⟩ := split
      have notEscape : c ≠ '\\' := by
        rintro rfl
        cases text with
        | nil => exact notLast rfl rfl
        | cons d text => exact notPair d text rfl rfl
      exact .plain notEscape notQuote (inductionHypothesis found)

/-- A body is read up to the quote behind it. -/
theorem split?_append {quote : Char} (notEscape : quote ≠ '\\') {body : List Char}
    (inside : Body quote body) (rest : List Char) :
    split? quote (body ++ quote :: rest) = some (body, rest) := by
  induction inside with
  | empty =>
      rw [List.nil_append, split?.eq_4 _ _ _ (fun same _ => notEscape same)
        (fun _ _ same _ => notEscape same), if_pos rfl]
  | escaped c later inductionHypothesis =>
      simp [split?, inductionHypothesis]
  | @plain c body notBackslash notQuote later inductionHypothesis =>
      rw [List.cons_append, split?.eq_4 _ _ _ (fun same _ => notBackslash same)
        (fun _ _ same _ => notBackslash same), if_neg notQuote, inductionHypothesis]
      rfl

/-- A quoted run ends at the first quote that no backslash escapes. -/
theorem split?_eq_some_iff {quote : Char} (notEscape : quote ≠ '\\')
    {text body rest : List Char} :
    split? quote text = some (body, rest) ↔
      text = body ++ quote :: rest ∧ Body quote body := by
  constructor
  · intro split
    exact ⟨(append_of_split? split).symm, body_of_split? split⟩
  · rintro ⟨rfl, inside⟩
    exact split?_append notEscape inside rest

/-- No quoted run is closed where no body stands in front of its quote. -/
theorem split?_eq_none_iff {quote : Char} (notEscape : quote ≠ '\\')
    {text : List Char} :
    split? quote text = none ↔ ∀ body, Body quote body → ¬ body ++ [quote] <+: text := by
  constructor
  · rintro unclosed body inside ⟨rest, rfl⟩
    rw [List.append_assoc, List.singleton_append, split?_append notEscape inside] at unclosed
    cases unclosed
  · intro unclosed
    rw [Option.eq_none_iff_forall_ne_some]
    rintro ⟨body, rest⟩ split
    obtain ⟨rfl, inside⟩ := (split?_eq_some_iff notEscape).mp split
    exact unclosed body inside ⟨rest, by simp⟩

/-- A quote is no backslash, so it always closes what it opens. -/
theorem ne_backslash_of_isQuote {quote : Char} (opens : isQuote quote = true) :
    quote ≠ '\\' := by
  rintro rfl
  simp [isQuote] at opens

end Quoted

namespace Interpolation

/-- One body behind the other is a body. -/
theorem Body.append {first second : List Char} (before : Body first) (behind : Body second) :
    Body (first ++ second) := by
  induction before with
  | empty => exact behind
  | plain notOpening notClosing notQuote _ inductionHypothesis =>
      exact .plain notOpening notClosing notQuote inductionHypothesis
  | quoted opens inside _ inductionHypothesis =>
      rw [List.append_assoc, List.cons_append]
      exact .quoted opens inside inductionHypothesis
  | braces inside _ _ inductionHypothesis =>
      rw [List.append_assoc, List.cons_append]
      exact .braces inside inductionHypothesis

/-- The texts that close `depth` braces more than they open: bodies with a closing brace
between each and the next. -/
inductive Nest : Nat → List Char → Prop where
  | level {body : List Char} (inside : Body body) : Nest 0 body
  | closing {depth : Nat} {inner outer : List Char} (inside : Body inner)
      (later : Nest depth outer) : Nest (depth + 1) (inner ++ '\x7d' :: outer)

/-- A body in front changes no depth. -/
theorem Nest.append_body {depth : Nat} {body text : List Char} (before : Body body)
    (nest : Nest depth text) : Nest depth (body ++ text) := by
  cases nest with
  | level inside => exact .level (before.append inside)
  | closing inside later =>
      rw [← List.append_assoc]
      exact .closing (before.append inside) later

/-- What stands in front of the closing brace closes what it has to and nothing more. -/
theorem nest_of_split? {depth : Nat} {text body rest : List Char}
    (split : split? depth text = some (body, rest)) : Nest depth body := by
  fun_induction split? depth text generalizing body with
  | case1 => cases split
  | case2 => cases split
  | case3 depth c text opens inside behind run inductionHypothesis =>
      simp only [Option.map_eq_some_iff, Prod.exists, Prod.mk.injEq] at split
      obtain ⟨inner, after, found, rfl, rfl⟩ := split
      have whole : Body (c :: inside ++ [c]) :=
        .quoted opens (Quoted.body_of_split? run) .empty
      simpa using (inductionHypothesis found).append_body whole
  | case4 text =>
      simp only [Option.some.injEq, Prod.mk.injEq] at split
      obtain ⟨rfl, rfl⟩ := split
      exact .level .empty
  | case5 text _ outer inductionHypothesis =>
      simp only [Option.map_eq_some_iff, Prod.exists, Prod.mk.injEq] at split
      obtain ⟨inner, after, found, rfl, rfl⟩ := split
      exact .closing .empty (inductionHypothesis found)
  | case6 depth text _ _ inductionHypothesis =>
      simp only [Option.map_eq_some_iff, Prod.exists, Prod.mk.injEq] at split
      obtain ⟨inner, after, found, rfl, rfl⟩ := split
      cases inductionHypothesis found with
      | @closing _ inner outer inside later =>
          have whole : Body ('\x7b' :: inner ++ ['\x7d']) := .braces inside .empty
          simpa using later.append_body whole
  | case7 depth c text notQuote notClosing notOpening inductionHypothesis =>
      simp only [Option.map_eq_some_iff, Prod.exists, Prod.mk.injEq] at split
      obtain ⟨inner, after, found, rfl, rfl⟩ := split
      have whole : Body [c] :=
        .plain notOpening notClosing (Bool.eq_false_iff.mpr notQuote) .empty
      exact (inductionHypothesis found).append_body whole

section Unfolding

variable {depth : Nat} {text : List Char}

private theorem split?_plain {c : Char} (notOpening : c ≠ '\x7b') (notClosing : c ≠ '\x7d')
    (notQuote : Quoted.isQuote c = false) :
    split? depth (c :: text) =
      (split? depth text).map fun (body, rest) => (c :: body, rest) := by
  rw [split?.eq_def]
  simp [notQuote, notClosing, notOpening]

private theorem split?_quoted {quote : Char} {run behind : List Char}
    (opens : Quoted.isQuote quote = true)
    (closes : Quoted.split? quote text = some (run, behind)) :
    split? depth (quote :: text) =
      (split? depth behind).map fun (body, rest) => (quote :: run ++ quote :: body, rest) := by
  rw [split?.eq_def]
  simp only [opens, if_true]
  split
  · rename_i unclosed
    cases closes.symm.trans unclosed
  · rename_i run' behind' closed
    cases closes.symm.trans closed
    rfl

private theorem split?_opening :
    split? depth ('\x7b' :: text) =
      (split? (depth + 1) text).map fun (body, rest) => ('\x7b' :: body, rest) := by
  rw [split?.eq_def]
  simp [Quoted.isQuote]

private theorem split?_closing :
    split? (depth + 1) ('\x7d' :: text) =
      (split? depth text).map fun (body, rest) => ('\x7d' :: body, rest) := by
  rw [split?.eq_def]
  simp [Quoted.isQuote]

private theorem split?_closed : split? 0 ('\x7d' :: text) = some ([], text) := by
  rw [split?.eq_def]
  simp [Quoted.isQuote]

/-- A quote that nothing closes leaves everything open around it. -/
theorem split?_open_quote {quote : Char} (opens : Quoted.isQuote quote = true)
    (unclosed : Quoted.split? quote text = none) : split? depth (quote :: text) = none := by
  rw [split?.eq_def]
  simp only [opens, if_true]
  split
  · rfl
  · rename_i closed
    cases unclosed.symm.trans closed

end Unfolding

/-- A body is passed at any depth, and the scan goes on behind it at the same depth. -/
theorem split?_body_append {body : List Char} (inside : Body body) (depth : Nat)
    (rest : List Char) :
    split? depth (body ++ rest) =
      (split? depth rest).map fun (inner, behind) => (body ++ inner, behind) := by
  induction inside generalizing depth rest with
  | empty => simp
  | plain notOpening notClosing notQuote _ inductionHypothesis =>
      rw [List.cons_append, split?_plain notOpening notClosing notQuote, inductionHypothesis]
      simp [Function.comp_def]
  | @quoted quote run body opens inside _ inductionHypothesis =>
      have closes := Quoted.split?_append (Quoted.ne_backslash_of_isQuote opens) inside
        (body ++ rest)
      rw [List.append_assoc, List.cons_append, List.cons_append, split?_quoted opens closes,
        inductionHypothesis]
      simp [Function.comp_def]
  | braces _ _ insideHypothesis laterHypothesis =>
      rw [List.append_assoc, List.cons_append, List.cons_append, split?_opening,
        insideHypothesis, split?_closing, laterHypothesis]
      simp [Function.comp_def]

/-- An interpolation ends at the brace that matches its opening one. -/
theorem split?_eq_some_iff {text body rest : List Char} :
    split? 0 text = some (body, rest) ↔ text = body ++ '\x7d' :: rest ∧ Body body := by
  constructor
  · intro split
    refine ⟨(append_of_split? split).symm, ?_⟩
    cases nest_of_split? split with
    | level inside => exact inside
  · rintro ⟨rfl, inside⟩
    simp [split?_body_append inside, split?_closed]

/-- No interpolation is closed where no body stands in front of its brace. -/
theorem split?_eq_none_iff {text : List Char} :
    split? 0 text = none ↔ ∀ body, Body body → ¬ body ++ ['\x7d'] <+: text := by
  constructor
  · rintro unclosed body inside ⟨rest, rfl⟩
    rw [List.append_assoc, List.singleton_append,
      split?_eq_some_iff.mpr ⟨rfl, inside⟩] at unclosed
    cases unclosed
  · intro unclosed
    rw [Option.eq_none_iff_forall_ne_some]
    rintro ⟨body, rest⟩ split
    obtain ⟨rfl, inside⟩ := split?_eq_some_iff.mp split
    exact unclosed body inside ⟨rest, by simp⟩

/-- The texts that open `depth` braces more than they close: bodies with an opening brace between
each and the next. -/
inductive Opens : Nat → List Char → Prop where
  | level {body : List Char} (inside : Body body) : Opens 0 body
  | opening {depth : Nat} {outer inner : List Char} (before : Opens depth outer)
      (inside : Body inner) : Opens (depth + 1) (outer ++ '\x7b' :: inner)

namespace Opens

variable {depth : Nat} {front : List Char}

/-- A body behind changes no depth. -/
theorem append_body {body : List Char} (opens : Opens depth front) (behind : Body body) :
    Opens depth (front ++ body) := by
  cases opens with
  | level inside => exact .level (inside.append behind)
  | opening before inside =>
      rw [List.append_assoc, List.cons_append]
      exact .opening before (inside.append behind)

/-- The scan goes on behind such a text with as many braces open in addition. -/
theorem split?_append (opens : Opens depth front) (outer : Nat) (rest : List Char) :
    split? outer (front ++ rest) =
      (split? (outer + depth) rest).map fun (inner, behind) => (front ++ inner, behind) := by
  induction opens generalizing rest with
  | level inside => exact split?_body_append inside outer rest
  | @opening depth outerText inner before inside inductionHypothesis =>
      rw [List.append_assoc, List.cons_append, inductionHypothesis, split?_opening,
        split?_body_append inside]
      simp [Function.comp_def, Nat.add_assoc]

/-- A body goes on behind such a text with what closes as many braces. -/
theorem body_append_iff {inner : List Char} (opens : Opens depth front) :
    Body (front ++ inner) ↔ Nest depth inner := by
  constructor
  · intro body
    have split : split? 0 (front ++ (inner ++ ['\x7d'])) = some (front ++ inner, []) := by
      rw [← List.append_assoc]
      exact split?_eq_some_iff.mpr ⟨rfl, body⟩
    rw [opens.split?_append, Nat.zero_add] at split
    simp only [Option.map_eq_some_iff, Prod.exists, Prod.mk.injEq, List.append_right_inj] at split
    obtain ⟨_, _, found, rfl, _⟩ := split
    exact nest_of_split? found
  · intro nest
    induction opens generalizing inner with
    | level inside =>
        cases nest with
        | level later => exact inside.append later
    | opening before inside inductionHypothesis =>
        cases nest with
        | closing later outer =>
            rw [List.append_assoc, List.cons_append, ← List.append_assoc]
            apply inductionHypothesis
            have braces := Body.braces (inside.append later) .empty
            simpa using outer.append_body braces

/-- Behind a text that leaves braces open, what closes them decides where the body ends. -/
theorem closes_iff {behind body rest : List Char} (opens : Opens depth front) :
    Body body ∧ front ++ behind = body ++ '\x7d' :: rest ↔
      ∃ inner, Nest depth inner ∧ body = front ++ inner ∧ behind = inner ++ '\x7d' :: rest := by
  constructor
  · rintro ⟨isBody, whole⟩
    have split : split? 0 (front ++ behind) = some (body, rest) :=
      split?_eq_some_iff.mpr ⟨whole, isBody⟩
    rw [opens.split?_append] at split
    simp only [Option.map_eq_some_iff, Prod.exists, Prod.mk.injEq] at split
    obtain ⟨inner, _, found, rfl, rfl⟩ := split
    exact ⟨inner, opens.body_append_iff.mp isBody, rfl, (append_of_split? found).symm⟩
  · rintro ⟨inner, nest, rfl, rfl⟩
    exact ⟨opens.body_append_iff.mpr nest, (List.append_assoc _ _ _).symm⟩

/-- No brace closes an interpolation behind a quote that nothing closes. -/
theorem not_closed {behind : List Char} {quote : Char}
    (isFront : Opens depth front) (opens : Quoted.isQuote quote = true)
    (unclosed : ∀ run, Quoted.Body quote run → ¬ run ++ [quote] <+: behind) (body rest : List Char)
    (isBody : Body body) : front ++ quote :: behind ≠ body ++ '\x7d' :: rest := by
  intro whole
  have split := split?_eq_some_iff.mpr ⟨whole, isBody⟩
  have noRun := (Quoted.split?_eq_none_iff (Quoted.ne_backslash_of_isQuote opens)).mpr unclosed
  rw [isFront.split?_append, split?_open_quote opens noRun] at split
  cases split

end Opens

end Interpolation

end StyleLexer
