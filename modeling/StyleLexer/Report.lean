import StyleLexer.Items
import StyleLexer.ItemStream

/-!
# Reports on documents

What a command prints about each document, and whether the document failed. Reports are
joined in the order of the documents, and one failed document makes the whole run fail.
-/

namespace StyleLexer

/-- Why a document has no text. -/
inductive ReadFailure where
  | missing
  | directory
  | notText
  /-- Any other reason, in the system's words. -/
  | unreadable (reason : String)
deriving DecidableEq, Repr

/-- The wording of a read failure. -/
def ReadFailure.message : ReadFailure → String
  | .missing => "No such file or directory (os error 2)"
  | .directory => "Is a directory (os error 21)"
  | .notText => "stream did not contain valid UTF-8"
  | .unreadable reason => reason

/-- A named document and its text, if it has one. -/
structure Document where
  name : String
  content : Except ReadFailure String

/-- The document that a file of these bytes holds. -/
def Document.ofBytes (name : String) (bytes : ByteArray) : Document where
  name := name
  content :=
    match String.fromUTF8? bytes with
    | some text => .ok text
    | none => .error .notText

/-- What a run has printed so far. -/
structure Report where
  /-- The listing of items. -/
  listing : String
  /-- Verdicts and complaints. -/
  diagnostics : String
  failed : Bool
deriving DecidableEq, Repr

namespace Report

/-- Nothing printed and nothing failed. -/
def empty : Report := ⟨"", "", false⟩

/-- One report after the other. -/
def append (first second : Report) : Report where
  listing := first.listing ++ second.listing
  diagnostics := first.diagnostics ++ second.diagnostics
  failed := first.failed || second.failed

instance : Append Report := ⟨append⟩

/-- All reports, one after the other. -/
def concat (reports : List Report) : Report :=
  reports.foldl (· ++ ·) empty

@[simp] theorem listing_append (first second : Report) :
    (first ++ second).listing = first.listing ++ second.listing := rfl

@[simp] theorem diagnostics_append (first second : Report) :
    (first ++ second).diagnostics = first.diagnostics ++ second.diagnostics := rfl

@[simp] theorem failed_append (first second : Report) :
    (first ++ second).failed = (first.failed || second.failed) := rfl

@[ext] theorem ext {first second : Report} (listing : first.listing = second.listing)
    (diagnostics : first.diagnostics = second.diagnostics)
    (failed : first.failed = second.failed) : first = second := by
  cases first
  cases second
  cases listing
  cases diagnostics
  cases failed
  rfl

@[simp] theorem empty_append (report : Report) : empty ++ report = report := by
  ext1 <;> simp [empty]

@[simp] theorem append_empty (report : Report) : report ++ empty = report := by
  ext1 <;> simp [empty]

/-- How reports are grouped does not matter. -/
theorem append_assoc (first second third : Report) :
    first ++ second ++ third = first ++ (second ++ third) := by
  ext1 <;> simp [String.append_assoc, Bool.or_assoc]

/-- What has been printed stays in front. -/
theorem foldl_append (start : Report) (reports : List Report) :
    reports.foldl (· ++ ·) start = start ++ concat reports := by
  induction reports generalizing start with
  | nil => simp [concat]
  | cons report reports inductionHypothesis =>
      simp only [concat, List.foldl_cons, empty_append]
      rw [inductionHypothesis (start ++ report), inductionHypothesis report, append_assoc]

/-- Lists of reports are joined one after the other. -/
theorem concat_append (first second : List Report) :
    concat (first ++ second) = concat first ++ concat second := by
  rw [concat, List.foldl_append, foldl_append]
  rfl

/-- A line about a document that says what is wrong with it. -/
def complaint (name message : String) : Report :=
  ⟨"", name ++ ": " ++ message ++ "\n", true⟩

/-- The exit code of the run that printed the report. -/
def exitCode (report : Report) : UInt32 :=
  if report.failed then 1 else 0

end Report

/-- A number in decimal digits, with blanks in front up to four columns. -/
def offsetColumn (offset : Nat) : String :=
  let digits := Nat.toDigits 10 offset
  String.ofList (List.replicate (4 - digits.length) ' ' ++ digits)

/-- The line of an item in a listing. -/
def Item.line (item : Item) : String :=
  offsetColumn item.offset ++ ": " ++ item.kind.name ++ " " ++ item.value ++ "\n"

/-- An item of the named document: its line, and a complaint if it carries a fault. -/
def Item.report (name : String) (item : Item) : Report :=
  ⟨item.line, "", false⟩ ++
    match item.fault with
    | some fault => .complaint name fault.message
    | none => .empty

namespace Document

/-- The listing of all items of a document, the last one included. -/
def list (document : Document) : Report :=
  match document.content with
  | .error failure => .complaint document.name failure.message
  | .ok text =>
      .concat ((ItemStream.ofText text).drain.1.map fun (item, _) => item.report document.name)

/-- The verdict on a document, with the number of its items if it has no fault. -/
def check (document : Document) : Report :=
  match document.content with
  | .error failure => .complaint document.name failure.message
  | .ok text =>
      match items text with
      | .error fault => .complaint document.name fault.message
      | .ok found =>
          ⟨"", document.name ++ ": valid (" ++ found.length.repr ++ " item(s))\n", false⟩

end Document

end StyleLexer
