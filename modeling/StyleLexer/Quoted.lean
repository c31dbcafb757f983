/-!
# Quoted runs

A quoted run goes from a quote to the next equal quote that no backslash escapes.
`Quoted.split?` finds that quote; `Quoted.Body` says which texts may stand between the
two.
-/

namespace StyleLexer.Quoted

/-- The characters that open a quoted run. -/
def isQuote (c : Char) : Bool :=
  c == '\x22' || c == '\x27'

/-- The texts that may stand between two quotes: a backslash keeps the character behind it
from closing, whichever it is, and nothing else may be the quote. -/
inductive Body (quote : Char) : List Char → Prop where
  | empty : Body quote []
  | escaped (c : Char) {body : List Char} (later : Body quote body) :
      Body quote ('\\' :: c :: body)
  | plain {c : Char} {body : List Char} (notEscape : c ≠ '\\') (notQuote : c ≠ quote)
      (later : Body quote body) : Body quote (c :: body)

/-- The parts of a text before and after the quote that closes it, if one does. -/
def split? (quote : Char) : List Char → Option (List Char × List Char)
  | [] => none
  | '\\' :: [] => none
  | '\\' :: c :: text =>
      (split? quote text).map fun (body, rest) => ('\\' :: c :: body, rest)
  | c :: text =>
      if c = quote then some ([], text)
      else (split? quote text).map fun (body, rest) => (c :: body, rest)

/-- The body, its closing quote and the rest make up the text. -/
theorem append_of_split? {quote : Char} {text body rest : List Char}
    (split : split? quote text = some (body, rest)) : body ++ quote :: rest = text := by
  fun_induction split? quote text generalizing body with
  | case1 => cases split
  | case2 => cases split
  | case3 c text inductionHypothesis =>
      simp only [Option.map_eq_some_iff, Prod.exists, Prod.mk.injEq] at split
      obtain ⟨inner, after, found, rfl, rfl⟩ := split
      simp [inductionHypothesis found]
  | case4 text =>
      simp only [Option.some.injEq, Prod.mk.injEq] at split
      obtain ⟨rfl, rfl⟩ := split
      rfl
  | case5 c text _ _ _ inductionHypothesis =>
      simp only [Option.map_eq_some_iff, Prod.exists, Prod.mk.injEq] at split
      obtain ⟨inner, after, found, rfl, rfl⟩ := split
      simp [inductionHypothesis found]

/-- A closed run leaves less text than there was. -/
theorem length_of_split? {quote : Char} {text body rest : List Char}
    (split : split? quote text = some (body, rest)) : rest.length < text.length := by
  have whole := congrArg List.length (append_of_split? split)
  simp only [List.length_append, List.length_cons] at whole
  omega

end StyleLexer.Quoted
