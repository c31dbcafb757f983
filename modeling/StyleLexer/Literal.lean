import StyleLexer.Item

/-!
# Quoted literals that name files

A literal names files when it contains a path separator or a wildcard, or when it ends
in a known extension behind a non-empty stem. `Literal.kind` is the resulting kind.
-/

namespace StyleLexer.Literal

/-- The extensions of files that a stylesheet refers to, in lower case. -/
def knownExtensions : List String :=
  ["png", "jpg", "jpeg", "gif", "svg", "webp", "bmp", "ico", "css", "scss", "sass"]

/-- A path separator or a wildcard. -/
def isPathMark (c : Char) : Bool :=
  c == '/' || c == '*' || c == '?'

/-- The parts of a text before and after its last dot. -/
def splitAtLastDot? : List Char → Option (List Char × List Char)
  | [] => none
  | c :: text =>
      match splitAtLastDot? text with
      | some (stem, ending) => some (c :: stem, ending)
      | none => if c = '.' then some ([], text) else none

/-- The ending is a known extension, whatever the case of its ASCII letters. -/
def isKnownExtension (ending : List Char) : Bool :=
  knownExtensions.contains (String.ofList (ending.map Char.toLower))

/-- The text has a known extension behind a non-empty stem. -/
def hasKnownExtension (text : List Char) : Bool :=
  match splitAtLastDot? text with
  | some (stem, ending) => !stem.isEmpty && isKnownExtension ending
  | none => false

/-- The text looks like a path, a pattern for paths, or a file name. -/
def namesFile (text : List Char) : Bool :=
  text.any isPathMark || hasKnownExtension text

/-- The kind of a quoted literal with this body. -/
def kind (body : List Char) : Kind :=
  if namesFile body then .file else .text

/-- A text without a dot has no split. -/
theorem splitAtLastDot?_eq_none {text : List Char} (dotless : '.' ∉ text) :
    splitAtLastDot? text = none := by
  induction text with
  | nil => rfl
  | cons c text inductionHypothesis =>
      simp only [List.mem_cons, not_or] at dotless
      simp [splitAtLastDot?, inductionHypothesis dotless.2, Ne.symm dotless.1]

/-- A dot with no other dot behind it is where a text splits. -/
theorem splitAtLastDot?_append (stem : List Char) {ending : List Char}
    (dotless : '.' ∉ ending) :
    splitAtLastDot? (stem ++ '.' :: ending) = some (stem, ending) := by
  induction stem with
  | nil => simp [splitAtLastDot?, splitAtLastDot?_eq_none dotless]
  | cons c stem inductionHypothesis => simp [splitAtLastDot?, inductionHypothesis]

end StyleLexer.Literal
