import StyleLexer.CommandLine
import StyleLexer.Proofs.Readings

/-!
# Listings and verdicts

A listing asks for the items of a document one by one and goes on to the last one, whatever it is;
a verdict asks for all of them at once and stops at the end of the text or at a fault.
`exists_outcome` says that the two see the same items. So the commands agree about each document,
`Document.report_cases`, and reports are joined in the order of the documents, so they agree about
every run: `commands_agree`.
-/

namespace StyleLexer

/-- Asking for the items one by one and asking for all of them comes to the same: items without a
fault, and then the end of the text or the fault. -/
theorem exists_outcome (text : String) :
    ∃ found, (∀ item ∈ found, item.kind.isEnding = false ∧ item.fault = none) ∧
      ((∃ location, items text = .ok found ∧
          (ItemStream.ofText text).items = found ++ [.ofEnd location]) ∨
        ∃ fault, items text = .error fault ∧
          (ItemStream.ofText text).items = found ++ [.ofFault fault]) := by
  obtain ⟨passed, trivia, rest, tokens, cause, reading⟩ := exists_reading text.toList
  refine ⟨Token.items .initial tokens, ?_, ?_⟩
  · intro item member
    exact ⟨Token.isEnding_of_mem_items member, Token.fault_eq_none_of_mem_items member⟩
  · rw [reading.items_eq, reading.outcome_eq]
    cases cause with
    | none => exact .inl ⟨_, rfl, rfl⟩
    | some cause => exact .inr ⟨_, rfl, rfl⟩

/-- Reading a text whole succeeds with the items in front of the end of the text, if the stream of
the text ends so. -/
theorem items_eq_ok_iff {text : String} {found : List Item} :
    items text = .ok found ↔
      ∃ last, (ItemStream.ofText text).items = found ++ [last] ∧ last.kind = .endOfText := by
  obtain ⟨front, _, ⟨location, outcome, stream⟩ | ⟨fault, outcome, stream⟩⟩ := exists_outcome text
  · rw [outcome, stream]
    constructor
    · intro same
      obtain rfl := Except.ok.inj same
      exact ⟨_, rfl, rfl⟩
    · rintro ⟨last, same, _⟩
      rw [(List.append_inj' same rfl).1]
  · rw [outcome, stream]
    constructor
    · intro same
      cases same
    · rintro ⟨last, same, ending⟩
      obtain rfl := List.singleton_inj.mp (List.append_inj' same rfl).2
      cases ending

/-- Reading a text whole fails with the fault that the last item of its stream carries, if the
last item is a failure. -/
theorem items_eq_error_iff {text : String} {fault : Fault} :
    items text = .error fault ↔
      ∃ last, (ItemStream.ofText text).items.getLast? = some last ∧ last.kind = .failure ∧
        last.fault = some fault := by
  obtain ⟨front, _, ⟨location, outcome, stream⟩ | ⟨cause, outcome, stream⟩⟩ := exists_outcome text
  · rw [outcome, stream, List.getLast?_concat]
    constructor
    · intro same
      cases same
    · rintro ⟨last, same, failure, _⟩
      obtain rfl := Option.some.inj same
      cases failure
  · rw [outcome, stream, List.getLast?_concat]
    constructor
    · intro same
      obtain rfl := Except.error.inj same
      exact ⟨_, rfl, rfl, rfl⟩
    · rintro ⟨last, same, _, carries⟩
      obtain rfl := Option.some.inj same
      rw [Option.some.inj carries]

namespace Report

variable (reports : List Report)

theorem concat_cons (report : Report) : concat (report :: reports) = report ++ concat reports := by
  rw [concat, List.foldl_cons, foldl_append, empty_append]

/-- The diagnostics of joined reports follow each other. -/
theorem diagnostics_concat :
    (concat reports).diagnostics = String.join (reports.map diagnostics) := by
  induction reports with
  | nil => rfl
  | cons report reports inductionHypothesis => simp [concat_cons, inductionHypothesis]

/-- Joined reports fail if one of them does. -/
theorem failed_concat : (concat reports).failed = reports.any failed := by
  induction reports with
  | nil => rfl
  | cons report reports inductionHypothesis => simp [concat_cons, inductionHypothesis]

/-- The exit code tells whether the run has failed. -/
theorem exitCode_eq_one_iff (report : Report) : report.exitCode = 1 ↔ report.failed = true := by
  unfold exitCode
  split <;> simp_all

end Report

/-- Items without a fault are reported by their lines alone, in front of the report on the last
item. -/
theorem Report.concat_items {found : List Item} (faultless : ∀ item ∈ found, item.fault = none)
    (last : Item) (name : String) :
    concat ((found ++ [last]).map (Item.report name)) =
      ⟨String.join (found.map Item.line), "", false⟩ ++ last.report name := by
  induction found with
  | nil => rfl
  | cons item found inductionHypothesis =>
      obtain ⟨first, later⟩ := List.forall_mem_cons.mp faultless
      have joined : item.report name ++ ⟨String.join (found.map Item.line), "", false⟩ =
          ⟨String.join ((item :: found).map Item.line), "", false⟩ := by
        simp only [Item.report, first, append_empty]
        ext1 <;> simp
      rw [List.cons_append, List.map_cons, concat_cons, inductionHypothesis later, ← append_assoc,
        joined]

/-- The line of an item shows its offset in four columns or more, the name of its kind, and its
value. -/
theorem Item.line_eq (item : Item) :
    item.line = String.ofList (item.offset.repr.toList.leftpad 4 ' ') ++ ": " ++ item.kind.name ++
      " " ++ item.value ++ "\n" := by
  simp only [line, offsetColumn, Nat.repr, String.toList_ofList, List.leftpad]

namespace Document

/-- The document has a text that is read without a fault. -/
def isValid (document : Document) : Bool :=
  match document.content with
  | .ok text => (items text).isOk
  | .error _ => false

/-- All the items in the listing of a document, the last one included. -/
def listed (document : Document) : List Item :=
  match document.content with
  | .ok text => (ItemStream.ofText text).items
  | .error _ => []

/-- The verdict on a valid document: how many items it has, apart from its end. -/
def validity (document : Document) : String :=
  let count := (document.listed.filter fun item => item.kind != .endOfText).length
  document.name ++ ": valid (" ++ count.repr ++ " item(s))\n"

/-- The listing of a document with a text is that of its items. -/
theorem list_eq_concat {document : Document} {text : String} (content : document.content = .ok text) :
    document.list = .concat (document.listed.map (Item.report document.name)) := by
  simp only [list, listed, content, ItemStream.items, List.map_map]
  rfl

/-- What the commands print about a document: for a valid one its items and the verdict, and for
any other the same complaint. -/
theorem report_cases (document : Document) :
    document.list.listing = String.join (document.listed.map Item.line) ∧
      (document.isValid = true ∧ document.list.diagnostics = "" ∧ document.list.failed = false ∧
          document.check = ⟨"", document.validity, false⟩ ∨
        document.isValid = false ∧ document.list.diagnostics = document.check.diagnostics ∧
          document.list.failed = true ∧ document.check.failed = true) := by
  cases content : document.content with
  | error failure => simp [list, check, isValid, listed, content, Report.complaint]
  | ok text =>
      obtain ⟨found, ordinary, outcome⟩ := exists_outcome text
      have faultless : ∀ item ∈ found, item.fault = none := fun item member => (ordinary item member).2
      have notEnd : ∀ item ∈ found, (item.kind != .endOfText) = true := by
        intro item member
        rw [bne_iff_ne]
        intro ending
        have goesOn := (ordinary item member).1
        rw [ending] at goesOn
        cases goesOn
      rw [list_eq_concat content]
      obtain ⟨location, whole, stream⟩ | ⟨fault, whole, stream⟩ := outcome
      · have listed : document.listed = found ++ [.ofEnd location] := by
          simpa [Document.listed, content] using stream
        have count : (document.listed.filter fun item => item.kind != .endOfText) = found := by
          rw [listed, List.filter_append, List.filter_eq_self.mpr notEnd]
          simp [Item.ofEnd]
        rw [listed, Report.concat_items faultless]
        refine ⟨by simp [Item.report, Item.ofEnd], .inl ⟨?_, ?_, ?_, ?_⟩⟩
        · simp [isValid, content, whole, Except.isOk, Except.toBool]
        · simp [Item.report, Item.ofEnd, Report.empty]
        · simp [Item.report, Item.ofEnd, Report.empty]
        · simp [check, content, whole, validity, count]
      · have listed : document.listed = found ++ [.ofFault fault] := by
          simpa [Document.listed, content] using stream
        rw [listed, Report.concat_items faultless]
        refine ⟨by simp [Item.report, Item.ofFault, Report.complaint], .inr ⟨?_, ?_, ?_, ?_⟩⟩
        · simp [isValid, content, whole, Except.isOk, Except.toBool]
        · simp [Item.report, Item.ofFault, Report.complaint, check, content, whole]
        · simp [Item.report, Item.ofFault, Report.complaint]
        · simp [check, content, whole, Report.complaint]

end Document

/-- What holds of the reports of both commands on the same documents. -/
structure Command.Agreement (documents : List Document) : Prop where
  /-- A run of one fails if a run of the other does. -/
  exitCode : (tokens.run documents).exitCode = (check.run documents).exitCode
  /-- Each document has its part in the diagnostics of a check, in the order of the documents. -/
  verdicts : (check.run documents).diagnostics =
    String.join (documents.map fun document => (check.report document).diagnostics)
  /-- The listing has the same diagnostics without those on valid documents. -/
  complaints : (tokens.run documents).diagnostics =
    String.join ((documents.filter fun document => !document.isValid).map
      fun document => (check.report document).diagnostics)
  /-- What is left out is the number of items in the listing of the document, its end apart. -/
  valid : ∀ document ∈ documents, document.isValid = true →
    (check.report document).diagnostics = document.validity
  /-- The listing of a document has a line for each of its items: the offset in four columns or
  more, the name of the kind, and the value. -/
  listing : ∀ document ∈ documents,
    (tokens.report document).listing = String.join (document.listed.map fun item =>
      String.ofList (item.offset.repr.toList.leftpad 4 ' ') ++ ": " ++ item.kind.name ++ " " ++
        item.value ++ "\n")

/-- The commands agree on any documents. -/
theorem Command.agreement (documents : List Document) : Agreement documents where
  exitCode := by
    have failed : (tokens.run documents).failed = (check.run documents).failed := by
      rw [run, run, Report.failed_concat, Report.failed_concat, List.any_map, List.any_map]
      congr 1
      funext document
      obtain ⟨_, ⟨_, _, fine, isReport⟩ | ⟨_, _, failed, failed'⟩⟩ := document.report_cases
      · simp [report, fine, isReport]
      · simp [report, failed, failed']
    rw [Report.exitCode, failed, Report.exitCode]
  verdicts := by
    rw [run, Report.diagnostics_concat, List.map_map]
    rfl
  complaints := by
    rw [run, Report.diagnostics_concat, List.map_map]
    induction documents with
    | nil => rfl
    | cons document documents inductionHypothesis =>
        rw [List.map_cons, String.join_cons, inductionHypothesis]
        obtain ⟨_, ⟨valid, silent, _⟩ | ⟨invalid, same, _⟩⟩ := document.report_cases
        · simp [valid, report, silent]
        · simp [invalid, report, same]
  valid := by
    intro document _ valid
    obtain ⟨_, ⟨_, _, _, isReport⟩ | ⟨invalid, _⟩⟩ := document.report_cases
    · rw [report, isReport]
    · cases valid.symm.trans invalid
  listing := by
    intro document _
    simp only [← Item.line_eq]
    exact document.report_cases.1

/-- Both ways to read a text see the same items, the two commands agree on any documents, and each
of them works on one document after the other. -/
theorem commands_agree :
    (∀ text,
      (∀ found, items text = .ok found ↔
        ∃ last, (ItemStream.ofText text).items = found ++ [last] ∧ last.kind = .endOfText) ∧
      ∀ fault, items text = .error fault ↔
        ∃ last, (ItemStream.ofText text).items.getLast? = some last ∧ last.kind = .failure ∧
          last.fault = some fault) ∧
    (∀ documents, Command.Agreement documents) ∧
    ∀ (command : Command) first second,
      (command.run (first ++ second)).listing =
          (command.run first).listing ++ (command.run second).listing ∧
        (command.run (first ++ second)).diagnostics =
          (command.run first).diagnostics ++ (command.run second).diagnostics ∧
        ((command.run (first ++ second)).exitCode = 1 ↔
          (command.run first).exitCode = 1 ∨ (command.run second).exitCode = 1) := by
  refine ⟨?_, Command.agreement, ?_⟩
  · exact fun text => ⟨fun _ => items_eq_ok_iff, fun _ => items_eq_error_iff⟩
  · intro command first second
    have joined : command.run (first ++ second) = command.run first ++ command.run second := by
      rw [Command.run, List.map_append, Report.concat_append]
      rfl
    rw [joined]
    refine ⟨rfl, rfl, ?_⟩
    simp only [Report.exitCode_eq_one_iff, Report.failed_append, Bool.or_eq_true]

end StyleLexer
