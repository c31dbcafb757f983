import Mathlib.Data.PFun

/-!
# Loops without a bound

A loop takes one turn after the other until a turn gives an answer. Nothing bounds the number of its
turns, and a turn may fail. `Loop.loop?` is the answer of a loop, and `none` if a turn fails or if
the turns go on for ever; so a loop that is known to have an answer is one that ends by itself.
-/

namespace StyleLexer.Loop

variable {State Answer : Type}

/-- The loop goes on with another turn. -/
def again (state : State) : Option (Answer ⊕ State) :=
  some (.inr state)

/-- The loop ends. -/
def done (answer : Answer) : Option (Answer ⊕ State) :=
  some (.inl answer)

/-- What becomes of the loop behind a turn, if `next` says what becomes of it in a state. -/
def follow (next : State → Option Answer) : Option (Answer ⊕ State) → Option Answer
  | some (.inr state) => next state
  | some (.inl answer) => some answer
  | none => none

/-- A turn as a partial function. -/
def partialTurn (turn : State → Option (Answer ⊕ State)) : State →. Answer ⊕ State :=
  fun state => Part.ofOption (turn state)

open Classical in
/-- The answer that a loop comes to from a state, if there is one. -/
noncomputable def loop? (turn : State → Option (Answer ⊕ State)) (state : State) : Option Answer :=
  ((partialTurn turn).fix state).toOption

/-- The answer of a loop is the value of the least fixed point of its turns. -/
theorem loop?_eq_some_iff {turn : State → Option (Answer ⊕ State)} {state : State}
    {answer : Answer} : loop? turn state = some answer ↔ answer ∈ (partialTurn turn).fix state := by
  classical
  exact Part.toOption_eq_some_iff

/-- The first turn fails, or it ends the loop, or the other turns decide. -/
theorem loop?_eq (turn : State → Option (Answer ⊕ State)) (state : State) :
    loop? turn state = follow (loop? turn) (turn state) := by
  ext answer
  rw [loop?_eq_some_iff, PFun.mem_fix_iff]
  simp only [partialTurn, Part.mem_ofOption, Option.mem_def]
  cases turn state with
  | none => simp [follow]
  | some outcome =>
      cases outcome with
      | inl found => simp [follow]
      | inr next => simp [follow, loop?_eq_some_iff]

variable {next : State → Option Answer}

@[simp] theorem follow_again (state : State) : follow next (again state) = next state := rfl

@[simp] theorem follow_done (answer : Answer) : follow next (done answer) = some answer := rfl

end StyleLexer.Loop
