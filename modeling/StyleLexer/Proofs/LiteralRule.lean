import Mathlib.Data.List.Forall2
import StyleLexer.Literal

/-!
# The rule for quoted literals

Which literals name files can be said of all the ways to part a text at a dot, without singling out
the last dot, and of the case of letters without folding them. `Literal.LooksLikeFile` is that rule,
`Literal.namesFile_iff` says that it is the one in use, and `literal_kind_by_rule` draws from it that
neither the case of letters nor a text in front of a file name matters.
-/

namespace StyleLexer.Literal

section Case

/-- The characters are equal, or the two cases of one letter of ASCII. -/
def SameButForCase (c d : Char) : Prop :=
  c = d ∨ (c.isUpper = true ∧ d.toNat = c.toNat + 32) ∨ (d.isUpper = true ∧ c.toNat = d.toNat + 32)

theorem isUpper_iff {c : Char} : c.isUpper = true ↔ c.val ≥ 'A'.val ∧ c.val ≤ 'Z'.val :=
  decide_eq_true_iff

/-- The capital letters of ASCII by their numbers. -/
theorem isUpper_iff_toNat {c : Char} : c.isUpper = true ↔ 65 ≤ c.toNat ∧ c.toNat ≤ 90 := by
  simp [isUpper_iff, UInt32.le_iff_toNat_le]

/-- Lowering adds 32 to the number of a capital letter and changes nothing else. -/
theorem toNat_toLower (c : Char) :
    c.toLower.toNat = if c.isUpper then c.toNat + 32 else c.toNat := by
  by_cases upper : c.isUpper = true
  · have lowered : c.toLower.val = c.val + ('a'.val - 'A'.val) :=
      congrArg Char.val (dif_pos (isUpper_iff.mp upper))
    have distance : ('a'.val - 'A'.val).toNat = 32 := rfl
    have bounds := isUpper_iff_toNat.mp upper
    rw [if_pos upper, ← Char.toNat_val, lowered, UInt32.toNat_add, distance, Char.toNat_val]
    omega
  · have kept : c.toLower = c := dif_neg (mt isUpper_iff.mpr upper)
    rw [kept, if_neg upper]

/-- Two characters differ at most in case if lowering makes them equal. -/
theorem sameButForCase_iff {c d : Char} : SameButForCase c d ↔ c.toLower = d.toLower := by
  simp only [SameButForCase, ← Char.toNat_inj, toNat_toLower, isUpper_iff_toNat]
  split <;> split <;> omega

/-- Two texts differ at most in case if lowering makes them equal. -/
theorem forall₂_sameButForCase_iff {text text' : List Char} :
    List.Forall₂ SameButForCase text text' ↔ text.map Char.toLower = text'.map Char.toLower := by
  rw [← List.forall₂_eq_eq_eq, List.forall₂_map_left_iff, List.forall₂_map_right_iff]
  simp only [← sameButForCase_iff]

/-- A character whose number is below all letters has one case only. -/
theorem toLower_eq_toLower_iff {c mark : Char} (noLetter : mark.toNat < 65) :
    c.toLower = mark.toLower ↔ c = mark := by
  simp only [← Char.toNat_inj, toNat_toLower, isUpper_iff_toNat]
  split <;> split <;> omega

end Case

/-- A text parts at no dot only if it has none. -/
theorem splitAtLastDot?_eq_none_iff {text : List Char} :
    splitAtLastDot? text = none ↔ '.' ∉ text := by
  refine ⟨?_, splitAtLastDot?_eq_none⟩
  intro whole
  fun_induction splitAtLastDot? text with
  | case1 => exact List.not_mem_nil
  | case2 => cases whole
  | case3 => cases whole
  | case4 c text nowhere notDot inductionHypothesis =>
      exact List.not_mem_cons_of_ne_of_not_mem (Ne.symm notDot) (inductionHypothesis nowhere)

/-- A text parts at its last dot, the one with no other behind it. -/
theorem splitAtLastDot?_eq_some_iff {text stem ending : List Char} :
    splitAtLastDot? text = some (stem, ending) ↔ text = stem ++ '.' :: ending ∧ '.' ∉ ending := by
  constructor
  · intro parts
    fun_induction splitAtLastDot? text generalizing stem with
    | case1 => cases parts
    | case2 c text inner ending' found inductionHypothesis =>
        cases parts
        obtain ⟨rfl, dotless⟩ := inductionHypothesis found
        exact ⟨rfl, dotless⟩
    | case3 text nowhere _ =>
        cases parts
        exact ⟨rfl, splitAtLastDot?_eq_none_iff.mp nowhere⟩
    | case4 c text nowhere notDot _ => cases parts
  · rintro ⟨rfl, dotless⟩
    exact splitAtLastDot?_append stem dotless

/-- The known extensions are in lower case and have no dots. -/
theorem lower_of_mem_knownExtensions {known : String} (member : known ∈ knownExtensions) :
    known.toList.map Char.toLower = known.toList ∧ '.' ∉ known.toList := by
  revert known
  decide

/-- The ending is one of the known extensions, in whatever case its letters are written. -/
def IsExtension (ending : List Char) : Prop :=
  ∃ known ∈ knownExtensions, List.Forall₂ SameButForCase ending known.toList

theorem isKnownExtension_iff {ending : List Char} :
    isKnownExtension ending = true ↔ IsExtension ending := by
  rw [isKnownExtension, List.contains_iff_mem, IsExtension]
  constructor
  · intro member
    refine ⟨_, member, forall₂_sameButForCase_iff.mpr ?_⟩
    rw [(lower_of_mem_knownExtensions member).1, String.toList_ofList]
  · rintro ⟨known, member, same⟩
    rw [forall₂_sameButForCase_iff, (lower_of_mem_knownExtensions member).1] at same
    rwa [same, String.ofList_toList]

/-- No extension has a dot, so a dot in front of one is the last. -/
theorem IsExtension.dot_not_mem {ending : List Char} (extension : IsExtension ending) :
    '.' ∉ ending := by
  obtain ⟨known, member, same⟩ := extension
  obtain ⟨lower, dotless⟩ := lower_of_mem_knownExtensions member
  rw [forall₂_sameButForCase_iff, lower] at same
  intro dot
  apply dotless
  rw [← same]
  exact List.mem_map_of_mem dot

/-- The text holds a separator or a wildcard of paths, or it is a stem that is not empty, a dot and
an extension. -/
def LooksLikeFile (text : List Char) : Prop :=
  (∃ c ∈ text, c = '/' ∨ c = '*' ∨ c = '?') ∨
    ∃ stem ending, text = stem ++ '.' :: ending ∧ stem ≠ [] ∧ IsExtension ending

/-- A text has a known extension if it can be parted at any dot into a stem and an extension. -/
theorem hasKnownExtension_iff {text : List Char} :
    hasKnownExtension text = true ↔
      ∃ stem ending, text = stem ++ '.' :: ending ∧ stem ≠ [] ∧ IsExtension ending := by
  constructor
  · intro known
    rw [hasKnownExtension] at known
    split at known
    · rename_i stem ending parts
      simp only [Bool.and_eq_true, Bool.not_eq_true', List.isEmpty_eq_false_iff,
        isKnownExtension_iff] at known
      exact ⟨stem, ending, (splitAtLastDot?_eq_some_iff.mp parts).1, known⟩
    · cases known
  · rintro ⟨stem, ending, rfl, nonempty, extension⟩
    rw [hasKnownExtension, splitAtLastDot?_append stem extension.dot_not_mem]
    simp [nonempty, isKnownExtension_iff.mpr extension]

/-- The literals that name files are those that the rule describes. -/
theorem namesFile_iff {text : List Char} : namesFile text = true ↔ LooksLikeFile text := by
  rw [namesFile, Bool.or_eq_true, List.any_eq_true, hasKnownExtension_iff, LooksLikeFile]
  simp only [isPathMark, Bool.or_eq_true, beq_iff_eq, or_assoc]

theorem kind_eq_file_iff {text : List Char} : kind text = .file ↔ LooksLikeFile text := by
  rw [kind, ← namesFile_iff]
  split <;> simp_all

theorem kind_eq_text_iff {text : List Char} : kind text = .text ↔ ¬ LooksLikeFile text := by
  rw [kind, ← namesFile_iff]
  split <;> simp_all

/-- The rule does not look at the case of letters. -/
theorem LooksLikeFile.of_same {text text' : List Char} (looks : LooksLikeFile text)
    (same : text.map Char.toLower = text'.map Char.toLower) : LooksLikeFile text' := by
  rcases looks with ⟨mark, member, isMark⟩ | ⟨stem, ending, rfl, nonempty, known, isKnown, extension⟩
  · have noLetter : mark.toNat < 65 := by
      rcases isMark with rfl | rfl | rfl <;> decide
    obtain ⟨c, member', lowered⟩ : ∃ c ∈ text', c.toLower = mark.toLower := by
      rw [← List.mem_map, ← same]
      exact List.mem_map_of_mem member
    obtain rfl := (toLower_eq_toLower_iff noLetter).mp lowered
    exact .inl ⟨c, member', isMark⟩
  · rw [List.map_append, List.map_cons] at same
    obtain ⟨stem', behind, rfl, sameStem, sameBehind⟩ := List.map_eq_append_iff.mp same.symm
    obtain ⟨c, ending', rfl, lowered, sameEnding⟩ := List.map_eq_cons_iff.mp sameBehind
    obtain rfl := (toLower_eq_toLower_iff (by decide)).mp lowered
    refine .inr ⟨stem', ending', rfl, ?_, known, isKnown, ?_⟩
    · rintro rfl
      exact nonempty (List.map_eq_nil_iff.mp sameStem.symm)
    · rw [forall₂_sameButForCase_iff] at extension ⊢
      exact sameEnding.trans extension

/-- A text in front of what looks like a file makes it a longer path or a longer stem. -/
theorem LooksLikeFile.append {text : List Char} (looks : LooksLikeFile text) (front : List Char) :
    LooksLikeFile (front ++ text) := by
  rcases looks with ⟨mark, member, isMark⟩ | ⟨stem, ending, rfl, nonempty, extension⟩
  · exact .inl ⟨mark, List.mem_append_right front member, isMark⟩
  · refine .inr ⟨front ++ stem, ending, (List.append_assoc _ _ _).symm, ?_, extension⟩
    exact List.append_ne_nil_of_right_ne_nil front nonempty

/-- What the kind of a quoted literal depends on. -/
structure KindByRule (text : List Char) : Prop where
  file_iff : kind text = .file ↔ LooksLikeFile text
  text_iff : kind text = .text ↔ ¬ LooksLikeFile text
  /-- The kind is the same in whatever case the letters of the text are written. -/
  anyCase {text' : List Char} (same : List.Forall₂ SameButForCase text text') :
    kind text' = kind text
  /-- What names a file still does so with any text in front of it. -/
  behind (front : List Char) (names : kind text = .file) : kind (front ++ text) = .file

/-- The kind of every literal follows the rule. -/
theorem literal_kind_by_rule (text : List Char) : KindByRule text where
  file_iff := kind_eq_file_iff
  text_iff := kind_eq_text_iff
  anyCase := by
    intro text' same
    rw [forall₂_sameButForCase_iff] at same
    by_cases looks : LooksLikeFile text
    · rw [kind_eq_file_iff.mpr looks, kind_eq_file_iff.mpr (looks.of_same same)]
    · have looks' : ¬ LooksLikeFile text' := fun looks' => looks (looks'.of_same same.symm)
      rw [kind_eq_text_iff.mpr looks, kind_eq_text_iff.mpr looks']
  behind := by
    intro front names
    exact kind_eq_file_iff.mpr ((kind_eq_file_iff.mp names).append front)

/-- A name that is all extension becomes a file behind a stem. -/
example : kind ".PNG".toList = .text ∧ kind "logo.PNG".toList = .file := by
  decide +kernel

end StyleLexer.Literal
