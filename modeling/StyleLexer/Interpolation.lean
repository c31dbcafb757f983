import StyleLexer.Quoted

/-!
# Interpolations

The body of an interpolation ends at the brace that matches its opening one. Braces nest,
and quoted runs inside the body are opaque. `Interpolation.split?` finds the matching
brace; `Interpolation.Body` is the grammar of bodies.
-/

namespace StyleLexer.Interpolation

/-- The texts that may stand between the braces of an interpolation. -/
inductive Body : List Char → Prop where
  | empty : Body []
  | plain {c : Char} {body : List Char} (notOpening : c ≠ '\x7b') (notClosing : c ≠ '\x7d')
      (notQuote : Quoted.isQuote c = false) (later : Body body) : Body (c :: body)
  | quoted {quote : Char} {run body : List Char} (opens : Quoted.isQuote quote = true)
      (inside : Quoted.Body quote run) (later : Body body) :
      Body (quote :: run ++ quote :: body)
  | braces {inner body : List Char} (inside : Body inner) (later : Body body) :
      Body ('\x7b' :: inner ++ '\x7d' :: body)

/-- The parts of a text before and after the brace that closes it, if one does, when
`depth` further braces are open. -/
def split? (depth : Nat) : List Char → Option (List Char × List Char)
  | [] => none
  | c :: text =>
      if Quoted.isQuote c then
        match _run : Quoted.split? c text with
        | none => none
        | some (inside, behind) =>
            (split? depth behind).map fun (body, rest) =>
              (c :: inside ++ c :: body, rest)
      else if c = '\x7d' then
        match depth with
        | 0 => some ([], text)
        | outer + 1 => (split? outer text).map fun (body, rest) => (c :: body, rest)
      else if c = '\x7b' then
        (split? (depth + 1) text).map fun (body, rest) => (c :: body, rest)
      else
        (split? depth text).map fun (body, rest) => (c :: body, rest)
termination_by text => text.length
decreasing_by
  all_goals simp only [List.length_cons]
  · have shorter := Quoted.length_of_split? _run
    omega
  all_goals omega

/-- The body, its closing brace and the rest make up the text. -/
theorem append_of_split? {depth : Nat} {text body rest : List Char}
    (split : split? depth text = some (body, rest)) : body ++ '\x7d' :: rest = text := by
  fun_induction split? depth text generalizing body with
  | case1 => cases split
  | case2 => cases split
  | case3 depth c text _ inside behind run inductionHypothesis =>
      simp only [Option.map_eq_some_iff, Prod.exists, Prod.mk.injEq] at split
      obtain ⟨inner, after, found, rfl, rfl⟩ := split
      have parts := Quoted.append_of_split? run
      have later := inductionHypothesis found
      simp [later, parts]
  | case4 text =>
      simp only [Option.some.injEq, Prod.mk.injEq] at split
      obtain ⟨rfl, rfl⟩ := split
      rfl
  | case5 text _ outer inductionHypothesis =>
      simp only [Option.map_eq_some_iff, Prod.exists, Prod.mk.injEq] at split
      obtain ⟨inner, after, found, rfl, rfl⟩ := split
      simp [inductionHypothesis found]
  | case6 depth text _ _ inductionHypothesis =>
      simp only [Option.map_eq_some_iff, Prod.exists, Prod.mk.injEq] at split
      obtain ⟨inner, after, found, rfl, rfl⟩ := split
      simp [inductionHypothesis found]
  | case7 depth c text _ _ _ inductionHypothesis =>
      simp only [Option.map_eq_some_iff, Prod.exists, Prod.mk.injEq] at split
      obtain ⟨inner, after, found, rfl, rfl⟩ := split
      simp [inductionHypothesis found]

end StyleLexer.Interpolation
