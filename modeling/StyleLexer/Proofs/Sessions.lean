import StyleLexer.Proofs.Steps
import StyleLexer.Proofs.TokenLists

/-!
# Sessions

A caller may ask a stream for items in two ways, and for the place, in any order and as often
as it likes. `ItemStream.talk` is what it hears. `ItemStream.answer_cases` says once what a
call can do; from it follow, by induction on the calls, which items are handed out
(`ItemStream.handed_talk`), when there is nothing left (`ItemStream.isExhausted_behind`) and
which place is told (`ItemStream.place_behind`). `session_of_calls` puts the three together.
-/

namespace StyleLexer

/-- What a caller can ask of a stream. -/
inductive Call where
  /-- The next item, the last one again and again. -/
  | next
  /-- The next item, the last one once. -/
  | next?
  | place
deriving DecidableEq, Repr

/-- What a stream answers. -/
inductive Answer where
  | item (item : Item)
  | nothing
  | place (place : Place)
deriving DecidableEq, Repr

/-- The item in an answer. -/
def Answer.item? : Answer → Option Item
  | .item found => some found
  | .nothing => none
  | .place _ => none

/-- The items handed out in a talk, in their order. -/
def handed (talk : List (Call × Answer)) : List Item :=
  talk.filterMap fun exchange => exchange.2.item?

theorem handed_cons (call : Call) (answer : Answer) (talk : List (Call × Answer)) :
    handed ((call, answer) :: talk) = answer.item?.toList ++ handed talk := by
  cases answer <;> rfl

/-- The place behind an item. A failure leaves it as it was. -/
def Place.after (place : Place) (item : Item) : Place :=
  if item.kind = .failure then place else .following item.kind item.value

/-- The place that the last item other than a failure leads to. -/
def Place.ofHanded (items : List Item) : Place :=
  match (items.filter fun item => item.kind != .failure).getLast? with
  | none => .statementStart
  | some item =>
      if item.endsStatement then .statementStart
      else if item.kind = .declaration then .afterDeclaration
      else .expression

namespace Place

/-- Going from item to item leads where the last item other than a failure does. -/
theorem foldl_after (items : List Item) (place : Place) :
    items.foldl after place = place.behind (items.filter fun item => item.kind != .failure) := by
  induction items generalizing place with
  | nil => rfl
  | cons item items inductionHypothesis =>
      rw [List.foldl_cons, inductionHypothesis]
      by_cases failure : item.kind = .failure
      · simp [after, failure]
      · simp [after, failure, behind_cons]

/-- From the start of a text, items lead to the place that the last of them says. -/
theorem foldl_after_initial (items : List Item) : items.foldl after .initial = .ofHanded items := by
  rw [foldl_after, ofHanded, behind]
  cases (items.filter fun item => item.kind != .failure).getLast? with
  | none => rfl
  | some item => exact following_eq item

end Place

namespace Scanner

variable {scanner after : Scanner} {item : Item}

/-- A silent step leaves the place as it is. -/
theorem place_of_silent (silent : scanner.step = .silent after) : after.place = scanner.place := by
  have moves := scanner.moves_step
  rw [silent] at moves
  cases moves with
  | seeks seeking noComment => rfl
  | rests => rfl

/-- A step that hands out an item leads to the place behind it. -/
theorem place_of_yield (yields : scanner.step = .yield item after) :
    after.place = scanner.place.after item := by
  have moves := scanner.moves_step
  rw [yields] at moves
  cases moves with
  | ends cursor => rfl
  | fails cause cursor => rfl
  | @reads first text rest lexeme behind _ _ _ _ _ isItem =>
      have goesOn : item.kind.isEnding = false := by
        rw [isItem]
        exact Lexeme.isEnding_kind scanner.place behind lexeme
      have notFailure : item.kind ≠ .failure := by
        intro failure
        rw [failure] at goesOn
        cases goesOn
      exact (if_neg notFailure).symm

/-- The place behind the next item is told by the item. -/
theorem place_of_next (found : scanner.next = (item, after)) :
    after.place = scanner.place.after item := by
  fun_induction next scanner with
  | case1 scanner item' behind yields =>
      cases found
      exact place_of_yield yields
  | case2 scanner later silent inductionHypothesis =>
      rw [inductionHypothesis found, place_of_silent silent]

end Scanner

namespace ItemStream

variable {stream : ItemStream}

/-- The answer to a call, and the stream after it. -/
def answer (stream : ItemStream) : Call → Answer × ItemStream
  | .next =>
      let (item, after) := stream.next
      (.item item, after)
  | .next? =>
      match stream.next? with
      | some (item, after) => (.item item, after)
      | none => (.nothing, stream)
  | .place => (.place stream.place, stream)

/-- Calls made one after the other, each with its answer. -/
def talk (stream : ItemStream) : List Call → List (Call × Answer)
  | [] => []
  | call :: calls => (call, (stream.answer call).1) :: (stream.answer call).2.talk calls

/-- The stream after all of the calls. -/
def behind (stream : ItemStream) : List Call → ItemStream
  | [] => stream
  | call :: calls => (stream.answer call).2.behind calls

/-- The items that a stream has ahead. It never runs out of them: the last is handed out for
ever. -/
def ahead (stream : ItemStream) : List Item :=
  match stream.progress with
  | .running => stream.items
  | .ended last => [last]
  | .exhausted last => [last]

/-- The last item has been handed out by `next?`. -/
def IsExhausted (stream : ItemStream) : Prop :=
  ∃ last, stream.progress = .exhausted last

/-- The item that a stream has ended with is of an ending kind and changes the place no
more. -/
def Settled (stream : ItemStream) : Prop :=
  ∀ last, stream.progress = .ended last ∨ stream.progress = .exhausted last →
    last.kind.isEnding = true ∧ stream.place.after last = stream.place

/-- A running stream hands out the items that `next?` has left. -/
theorem items_ne_nil (scanner : Scanner) : items { scanner } ≠ [] := by
  rw [items_of_next?_eq_some (next?_of_running scanner)]
  exact List.cons_ne_nil _ _

/-- A stream ends at the first item of an ending kind. -/
theorem items_eq_concat (scanner : Scanner) :
    ∃ front last, items { scanner } = front ++ [last] ∧
      (∀ item ∈ front, item.kind.isEnding = false) ∧ last.kind.isEnding = true := by
  have found := items_of_next?_eq_some (next?_of_running scanner)
  cases scanned : scanner.next with
  | mk item after =>
      rw [scanned] at found
      cases ending : item.kind.isEnding with
      | true =>
          refine ⟨[], item, ?_, List.forall_mem_nil _, ending⟩
          rw [found, items_of_next?_eq_none]
          · rfl
          · simp [next?, Progress.ofItem, ending, Progress.exhaust]
      | false =>
          have shorter := Scanner.length_of_next scanned ending
          obtain ⟨front, last, later, goesOn, ends⟩ := items_eq_concat after
          refine ⟨item :: front, last, ?_, ?_, ends⟩
          · rw [found, List.cons_append, ← later]
            simp [Progress.ofItem, ending, Progress.exhaust]
          · exact List.forall_mem_cons.mpr ⟨ending, goesOn⟩
termination_by scanner.cursor.rest.length

/-- All that a call can do: tell the place, or that there is nothing left, or hand out the
next item; only `next?` takes note that the last one has been handed out. -/
theorem answer_cases (stream : ItemStream) (call : Call) :
    call = .place ∧ stream.answer call = (.place stream.place, stream) ∨
    call = .next? ∧ stream.IsExhausted ∧ stream.answer call = (.nothing, stream) ∨
    call = .next ∧ stream.answer call = (.item stream.next.1, stream.next.2) ∨
    call = .next? ∧ ¬ stream.IsExhausted ∧
      stream.answer call =
        (.item stream.next.1,
          { stream.next.2 with progress := stream.next.2.progress.exhaust }) := by
  obtain ⟨scanner, progress⟩ := stream
  cases call with
  | place => exact .inl ⟨rfl, rfl⟩
  | next => exact .inr (.inr (.inl ⟨rfl, rfl⟩))
  | next? =>
      cases progress with
      | running => exact .inr (.inr (.inr ⟨rfl, by simp [IsExhausted], rfl⟩))
      | ended last => exact .inr (.inr (.inr ⟨rfl, by simp [IsExhausted], rfl⟩))
      | exhausted last => exact .inr (.inl ⟨rfl, ⟨last, rfl⟩, rfl⟩)

/-- The next item is the first of those ahead, and it remains ahead if it is the only one. -/
theorem ahead_next (stream : ItemStream) :
    ∃ later, stream.ahead = stream.next.1 :: later ∧
      stream.next.2.ahead = if later = [] then [stream.next.1] else later := by
  obtain ⟨scanner, progress⟩ := stream
  cases progress with
  | ended last => exact ⟨[], rfl, rfl⟩
  | exhausted last => exact ⟨[], rfl, rfl⟩
  | running =>
      have found := items_of_next?_eq_some (next?_of_running scanner)
      refine ⟨_, found, ?_⟩
      cases ending : scanner.next.1.kind.isEnding with
      | true =>
          rw [items_of_next?_eq_none (by simp [next?, Progress.ofItem, ending, Progress.exhaust])]
          simp [next, ahead, Progress.ofItem, ending]
      | false =>
          have running : Progress.ofItem scanner.next.1 = .running := by
            simp [Progress.ofItem, ending]
          simp only [next, running, Progress.exhaust]
          exact (if_neg (items_ne_nil scanner.next.2)).symm

/-- Taking note of the end changes nothing about what is ahead. -/
theorem ahead_exhaust (stream : ItemStream) :
    ahead { stream with progress := stream.progress.exhaust } = stream.ahead := by
  obtain ⟨scanner, progress⟩ := stream
  cases progress <;> rfl

/-- The items handed out are those ahead of the stream, in their order, and then the last of
them again and again. -/
theorem handed_talk (stream : ItemStream) (calls : List Call) {k : Nat} {item : Item}
    (isHanded : (handed (stream.talk calls))[k]? = some item) :
    stream.ahead[min k (stream.ahead.length - 1)]? = some item := by
  induction calls generalizing stream k with
  | nil => cases isHanded
  | cons call calls inductionHypothesis =>
      -- Both ways of asking hand out the first item ahead and leave the same ones.
      have ofNext (after : ItemStream) (sameAhead : after.ahead = stream.next.2.ahead)
          (isHanded : (stream.next.1 :: handed (after.talk calls))[k]? = some item) :
          stream.ahead[min k (stream.ahead.length - 1)]? = some item := by
        obtain ⟨later, first, behind⟩ := stream.ahead_next
        rw [first]
        cases k with
        | zero => simpa using isHanded
        | succ k =>
            have inLater := inductionHypothesis after isHanded
            rw [sameAhead, behind] at inLater
            cases later with
            | nil => simpa using inLater
            | cons second later => simpa [Nat.add_min_add_right] using inLater
      obtain ⟨rfl, told⟩ | ⟨rfl, _, told⟩ | ⟨rfl, told⟩ | ⟨rfl, _, told⟩ :=
        stream.answer_cases call
      · rw [talk, told, handed_cons] at isHanded
        exact inductionHypothesis stream isHanded
      · rw [talk, told, handed_cons] at isHanded
        exact inductionHypothesis stream isHanded
      · rw [talk, told, handed_cons] at isHanded
        exact ofNext _ rfl isHanded
      · rw [talk, told, handed_cons] at isHanded
        exact ofNext _ (ahead_exhaust _) isHanded

/-- The next item leads to a settled stream, at the place behind it. -/
theorem Settled.next (settled : stream.Settled) :
    stream.next.2.Settled ∧ stream.next.2.place = stream.place.after stream.next.1 := by
  obtain ⟨scanner, progress⟩ := stream
  cases progress with
  | ended last => exact ⟨settled, (settled last (.inl rfl)).2.symm⟩
  | exhausted last => exact ⟨settled, (settled last (.inr rfl)).2.symm⟩
  | running =>
      have moved : scanner.next.2.place = scanner.place.after scanner.next.1 :=
        Scanner.place_of_next rfl
      refine ⟨?_, moved⟩
      intro last isLast
      cases ending : scanner.next.1.kind.isEnding with
      | false => simp [ItemStream.next, Progress.ofItem, ending] at isLast
      | true =>
          obtain rfl : scanner.next.1 = last := by
            simpa [ItemStream.next, Progress.ofItem, ending] using isLast
          refine ⟨ending, ?_⟩
          change scanner.next.2.place.after scanner.next.1 = scanner.next.2.place
          rw [moved]
          unfold Place.after
          split <;> rfl

/-- Taking note of the end leaves a stream settled. -/
theorem Settled.exhaust (settled : stream.Settled) :
    Settled { stream with progress := stream.progress.exhaust } := by
  obtain ⟨scanner, progress⟩ := stream
  intro last isLast
  cases progress with
  | running => simp [Progress.exhaust] at isLast
  | ended last' => exact settled last (by simpa [Progress.exhaust] using isLast)
  | exhausted last' => exact settled last (by simpa [Progress.exhaust] using isLast)

/-- A call leaves a stream settled, and it moves the place as the item in its answer says. -/
theorem Settled.answer (settled : stream.Settled) (call : Call) :
    (stream.answer call).2.Settled ∧
      (stream.answer call).2.place =
        (stream.answer call).1.item?.elim stream.place stream.place.after := by
  obtain ⟨rfl, told⟩ | ⟨rfl, _, told⟩ | ⟨rfl, told⟩ | ⟨rfl, _, told⟩ := stream.answer_cases call
  · rw [told]
    exact ⟨settled, rfl⟩
  · rw [told]
    exact ⟨settled, rfl⟩
  · rw [told]
    exact settled.next
  · rw [told]
    exact ⟨settled.next.1.exhaust, settled.next.2⟩

/-- The place that a talk ends at is told by the items handed out in it. -/
theorem place_behind (settled : stream.Settled) (calls : List Call) :
    (stream.behind calls).place = (handed (stream.talk calls)).foldl Place.after stream.place := by
  induction calls generalizing stream with
  | nil => rfl
  | cons call calls inductionHypothesis =>
      obtain ⟨settled', moved⟩ := settled.answer call
      rw [behind, inductionHypothesis settled', moved, talk, handed_cons, List.foldl_append]
      cases (stream.answer call).1.item? with
      | none => rfl
      | some item => rfl

/-- A call exhausts a stream if it is `next?` and hands out an item of an ending kind. -/
theorem Settled.isExhausted_answer (settled : stream.Settled) (call : Call) :
    (stream.answer call).2.IsExhausted ↔ stream.IsExhausted ∨
      call = .next? ∧ ∃ last, (stream.answer call).1 = .item last ∧ last.kind.isEnding = true := by
  obtain ⟨rfl, told⟩ | ⟨rfl, exhausted, told⟩ | ⟨rfl, told⟩ | ⟨rfl, fresh, told⟩ :=
    stream.answer_cases call
  · simp [told]
  · simp [told, exhausted]
  · rw [told]
    obtain ⟨scanner, progress⟩ := stream
    cases progress with
    | running =>
        cases ending : scanner.next.1.kind.isEnding <;>
          simp [IsExhausted, ItemStream.next, Progress.ofItem, ending]
    | ended last => simp [ItemStream.next]
    | exhausted last => simp [ItemStream.next]
  · rw [told]
    obtain ⟨scanner, progress⟩ := stream
    cases progress with
    | running =>
        cases ending : scanner.next.1.kind.isEnding <;>
          simp [IsExhausted, ItemStream.next, Progress.ofItem, ending, Progress.exhaust]
    | ended last =>
        have ends := (settled last (.inl rfl)).1
        simp [IsExhausted, ItemStream.next, Progress.exhaust, ends]
    | exhausted last => exact absurd ⟨last, rfl⟩ fresh

/-- A stream is exhausted once `next?` has handed out an item of an ending kind. -/
theorem isExhausted_behind (settled : stream.Settled) (calls : List Call) :
    (stream.behind calls).IsExhausted ↔ stream.IsExhausted ∨
      ∃ last, (.next?, .item last) ∈ stream.talk calls ∧ last.kind.isEnding = true := by
  induction calls generalizing stream with
  | nil => simp [behind, talk]
  | cons call calls inductionHypothesis =>
      obtain ⟨settled', _⟩ := settled.answer call
      rw [behind, inductionHypothesis settled', settled.isExhausted_answer call, or_assoc]
      apply or_congr_right
      simp only [talk, List.mem_cons, Prod.mk.injEq, or_and_right, exists_or]
      apply or_congr_left
      constructor
      · rintro ⟨rfl, last, told, ends⟩
        exact ⟨last, ⟨rfl, told.symm⟩, ends⟩
      · rintro ⟨last, ⟨rfl, told⟩, ends⟩
        exact ⟨rfl, last, told.symm, ends⟩

/-- To ask for an item is to get one, or to hear that there is nothing left. -/
theorem answer_of_ne_place (stream : ItemStream) {call : Call} (asks : call ≠ .place) :
    (stream.answer call).1 = .nothing ∨ ∃ item, (stream.answer call).1 = .item item := by
  obtain ⟨isPlace, _⟩ | ⟨_, _, told⟩ | ⟨_, told⟩ | ⟨_, _, told⟩ := stream.answer_cases call
  · exact absurd isPlace asks
  · exact .inl (by rw [told])
  · exact .inr ⟨_, by rw [told]⟩
  · exact .inr ⟨_, by rw [told]⟩

/-- Only an exhausted stream answers that there is nothing left. -/
theorem answer_eq_nothing_iff (stream : ItemStream) (call : Call) :
    (stream.answer call).1 = .nothing ↔ call = .next? ∧ stream.IsExhausted := by
  obtain ⟨rfl, told⟩ | ⟨rfl, exhausted, told⟩ | ⟨rfl, told⟩ | ⟨rfl, fresh, told⟩ :=
    stream.answer_cases call
  · simp [told]
  · simp [told, exhausted]
  · simp [told]
  · simp [told, fresh]

/-- To hear that there is nothing left changes nothing. -/
theorem answer_of_nothing {call : Call} (nothing : (stream.answer call).1 = .nothing) :
    (stream.answer call).2 = stream := by
  obtain ⟨_, told⟩ | ⟨_, _, told⟩ | ⟨_, told⟩ | ⟨_, _, told⟩ := stream.answer_cases call
  · rw [told]
  · rw [told]
  · rw [told] at nothing
    cases nothing
  · rw [told] at nothing
    cases nothing

end ItemStream

/-- What a caller may rely on after a talk with a stream, `canonical` being all the items that
the stream had ahead when it was opened. -/
structure Session (canonical : List Item) (talk : List (Call × Answer)) (stream : ItemStream) :
    Prop where
  /-- The items end with the first one of an ending kind. -/
  ends : ∃ front last, canonical = front ++ [last] ∧
    (∀ item ∈ front, item.kind.isEnding = false) ∧ last.kind.isEnding = true
  /-- They have been handed out in their order, the last one again and again. -/
  handed (k : Nat) (item : Item) : (handed talk)[k]? = some item →
    canonical[min k (canonical.length - 1)]? = some item
  /-- To ask for an item is to get one, or to hear that there is nothing left. -/
  asked (call : Call) : call ≠ .place →
    (stream.answer call).1 = .nothing ∨ ∃ item, (stream.answer call).1 = .item item
  /-- There is nothing left for `next?` once it has handed out the last item. -/
  nothing (call : Call) : (stream.answer call).1 = .nothing ↔
    call = .next? ∧ ∃ last, (.next?, .item last) ∈ talk ∧ last.kind.isEnding = true
  /-- To hear that there is nothing left changes nothing. -/
  unchanged (call : Call) : (stream.answer call).1 = .nothing → (stream.answer call).2 = stream
  /-- The place is told by the items handed out, and to ask for it changes nothing. -/
  place : stream.answer .place = (.place (.ofHanded (StyleLexer.handed talk)), stream)

/-- Whatever a caller expects of a text and whichever calls it makes, the stream keeps to the
same items. -/
theorem session_of_calls (expected : Option Category) (text : String) (calls : List Call) :
    let opened := ItemStream.expecting expected text
    Session opened.items (opened.talk calls) (opened.behind calls) := by
  intro opened
  obtain ⟨scanner, started, place⟩ : ∃ scanner, opened = { scanner } ∧ scanner.place = .initial := by
    cases expected with
    | none => exact ⟨.ofText text.toList, rfl, rfl⟩
    | some category => exact ⟨.startingAt category text.toList, rfl, rfl⟩
  have settled : opened.Settled := by
    rw [started]
    simp [ItemStream.Settled]
  constructor
  · rw [started]
    exact ItemStream.items_eq_concat scanner
  · intro k item isHanded
    have found := opened.handed_talk calls isHanded
    rw [started] at found ⊢
    exact found
  · exact fun _ => ItemStream.answer_of_ne_place _
  · intro call
    rw [ItemStream.answer_eq_nothing_iff, ItemStream.isExhausted_behind settled]
    simp [started, ItemStream.IsExhausted]
  · exact fun call => ItemStream.answer_of_nothing
  · have isInitial : opened.place = .initial := by
      rw [started]
      exact place
    have told := ItemStream.place_behind settled calls
    rw [isInitial, Place.foldl_after_initial] at told
    rw [← told]
    rfl

end StyleLexer
