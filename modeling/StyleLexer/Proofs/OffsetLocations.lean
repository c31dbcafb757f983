import StyleLexer.Proofs.Loops
import StyleLexer.Proofs.Offsets

/-!
# Locating offsets

`Offsets.locate?` finds the line and the column of an offset without following the text character by
character: it goes back to the nearest boundary, counts the line feeds in front of it, and counts the
characters behind the last of them. `Offsets.locate?_eq` says that this always succeeds, whatever the
offset, and that it agrees with `Location.locate`.
-/

namespace StyleLexer

namespace Location

variable {text : List Char}

/-- The longest beginning within a number of bytes has no more bytes. -/
theorem byteSize_within_le (bytes : Nat) (text : List Char) : byteSize (within bytes text) ≤ bytes := by
  induction text generalizing bytes with
  | nil => exact Nat.zero_le _
  | cons c text inductionHypothesis =>
      rw [within]
      split
      · have later := inductionHypothesis (bytes - c.utf8Size)
        rw [byteSize_cons]
        omega
      · exact Nat.zero_le _

/-- It is longer than any other one that has no more bytes. -/
theorem prefix_within {front : List Char} {bytes : Nat} (begins : front <+: text)
    (size : byteSize front ≤ bytes) : front <+: within bytes text := by
  induction front generalizing bytes text with
  | nil => exact List.nil_prefix
  | cons c front inductionHypothesis =>
      obtain ⟨rest, rfl⟩ := begins
      rw [byteSize_cons] at size
      rw [List.cons_append, within, if_pos (by omega)]
      refine List.cons_prefix_cons.mpr ⟨rfl, inductionHypothesis ?_ (by omega)⟩
      exact List.prefix_append _ _

/-- Two numbers of bytes have the same longest beginning within them if each allows that of the
other. -/
theorem within_eq_within {bytes bytes' : Nat} (size : byteSize (within bytes text) ≤ bytes')
    (size' : byteSize (within bytes' text) ≤ bytes) : within bytes text = within bytes' text := by
  have before := prefix_within (within_isPrefix bytes text) size
  have before' := prefix_within (within_isPrefix bytes' text) size'
  exact before.eq_of_length_le before'.length_le

/-- Of two beginnings of a text the one with fewer bytes is a beginning of the other. -/
theorem isPrefix_of_byteSize_le {front front' rest rest' : List Char}
    (whole : front ++ rest = front' ++ rest') (size : byteSize front ≤ byteSize front') :
    front <+: front' := by
  have begins := prefix_within ⟨rest, rfl⟩ size
  rwa [whole, within_byteSize] at begins

/-- The lines that are passed are counted by their line feeds. -/
theorem line_past (location : Location) (text : List Char) :
    (location.past text).line = location.line + text.count '\n' := by
  induction text generalizing location with
  | nil => rfl
  | cons c text inductionHypothesis =>
      rw [past_cons, inductionHypothesis, List.count_cons, advance]
      split
      · rename_i feed
        simp only [feed, beq_self_eq_true, if_true]
        omega
      · rename_i noFeed
        simp [noFeed]

/-- Within a line the column counts the characters. -/
theorem column_past_of_not_mem (location : Location) (oneLine : '\n' ∉ text) :
    (location.past text).column = location.column + text.length := by
  induction text generalizing location with
  | nil => rfl
  | cons c text inductionHypothesis =>
      simp only [List.mem_cons, not_or] at oneLine
      rw [past_cons, inductionHypothesis _ oneLine.2, advance, if_neg (Ne.symm oneLine.1),
        List.length_cons]
      exact Nat.add_right_comm _ _ _

end Location

namespace Offsets

open Loop

/-- One turn of the search for a boundary. -/
def boundaryTurn? (text : List Char) (offset : Nat) : Option (Nat ⊕ Nat) := do
  if IsBoundary text offset then done offset
  else
    let below ← subtract? offset 1
    again below

/-- The nearest boundary that lies no further than an offset, sought from there backwards. -/
noncomputable def boundaryBelow? (text : List Char) : Nat → Option Nat :=
  loop? (boundaryTurn? text)

/-- The line and the column of an offset, counted in the text in front of it. -/
noncomputable def locate? (text : List Char) (offset : Nat) : Option Location := do
  let stop ← boundaryBelow? text (min offset (byteSize text))
  let before ← sliceTo? text stop
  let lineStart :=
    match findLast? '\n' before with
    | some feed => feed + 1
    | none => 0
  let line ← sliceFrom? before lineStart
  return { offset, line := before.count '\n' + 1, column := line.length + 1 }

theorem boundaryBelow?_turn (text : List Char) (offset : Nat) :
    boundaryBelow? text offset = follow (boundaryBelow? text) (boundaryTurn? text offset) :=
  loop?_eq _ _

/-- The search goes back to a boundary. -/
theorem boundaryBelow?_eq (text : List Char) (offset : Nat) :
    boundaryBelow? text offset = some (byteSize (Location.within offset text)) := by
  induction offset with
  | zero =>
      have boundary : IsBoundary text 0 := ⟨[], text, rfl, rfl⟩
      have none := Nat.le_zero.mp (Location.byteSize_within_le 0 text)
      rw [boundaryBelow?_turn, boundaryTurn?, if_pos boundary, none]
      rfl
  | succ offset inductionHypothesis =>
      rw [boundaryBelow?_turn, boundaryTurn?]
      split
      · rename_i boundary
        obtain ⟨before, after, rfl, size⟩ := boundary
        rw [← size, Location.within_byteSize]
        rfl
      · rename_i inside
        have further := Location.byteSize_within_le (offset + 1) text
        have notThere : byteSize (Location.within (offset + 1) text) ≠ offset + 1 := by
          intro size
          have whole := List.prefix_iff_eq_append.mp (Location.within_isPrefix (offset + 1) text)
          exact inside ⟨_, _, whole.symm, size⟩
        have back := Location.byteSize_within_le offset text
        have same : Location.within (offset + 1) text = Location.within offset text :=
          Location.within_eq_within (by omega) (by omega)
        have difference : subtract? (offset + 1) 1 = some offset :=
          subtract?_eq_some_iff.mpr rfl
        rw [difference, same]
        exact inductionHypothesis

/-- A boundary is found where the search goes back to. -/
theorem sliceTo?_within (text : List Char) (bytes : Nat) :
    sliceTo? text (byteSize (Location.within bytes text)) = some (Location.within bytes text) := by
  have whole := List.prefix_iff_eq_append.mp (Location.within_isPrefix bytes text)
  exact sliceTo?_eq_some_iff.mpr ⟨_, whole.symm, rfl⟩

/-- An offset is always located, and where following the text in front of it leads. -/
theorem locate?_eq (text : List Char) (offset : Nat) :
    locate? text offset = some (Location.locate text offset) := by
  have clamped :
      Location.within (min offset (byteSize text)) text = Location.within offset text := by
    have size := Location.byteSize_within_le (min offset (byteSize text)) text
    have size' := Location.byteSize_within_le offset text
    have inText : byteSize (Location.within offset text) ≤ byteSize text := by
      obtain ⟨rest, whole⟩ := Location.within_isPrefix offset text
      exact IsBoundary.le_byteSize ⟨_, rest, whole.symm, rfl⟩
    exact Location.within_eq_within (by omega) (by omega)
  simp only [locate?, boundaryBelow?_eq, clamped, sliceTo?_within, Option.bind_eq_bind,
    Option.bind_some, Location.locate]
  generalize Location.within offset text = before
  have line : (Location.origin.past before).line = before.count '\n' + 1 := by
    rw [Location.line_past, Nat.add_comm]
    rfl
  obtain ⟨oneLine, notFound⟩ | ⟨front, later, rfl, oneLine, found⟩ := findLast?_cases '\n' before
  · have ahead : Ahead before 0 before := ⟨[], rfl, rfl⟩
    have column : (Location.origin.past before).column = before.length + 1 := by
      rw [Location.column_past_of_not_mem _ oneLine, Nat.add_comm]
      rfl
    simp [notFound, ahead.sliceFrom?_eq, line, column]
  · have ahead : Ahead (front ++ '\n' :: later) (byteSize front + 1) later :=
      ⟨front ++ ['\n'], by simp, byteSize_append _ _⟩
    have column : (Location.origin.past (front ++ '\n' :: later)).column = later.length + 1 := by
      rw [Location.past_append, Location.past_cons, Location.column_past_of_not_mem _ oneLine,
        Nat.add_comm]
      rfl
    simp only [found, ahead.sliceFrom?_eq, Option.bind_some, line, column]
    rfl

end Offsets

end StyleLexer
