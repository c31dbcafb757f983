import StyleLexer.CommandLine

/-!
# The program

Reads the documents that the command line names, and prints the report on each of them as
soon as it is known. A command line without an invocation is answered with the usage and an
exit code of its own; that goes for requests for help and for the version too, whose answers
are left out.
-/

namespace StyleLexer

/-- The exit code for a command line without an invocation. -/
def usageExitCode : UInt32 := 2

/-- How to call the program. -/
def usage : String :=
  "usage: stylelexer (tokens | check) FILE...\n"

/-- Reads one document; what prevents it becomes part of the document. -/
def readDocument (name : String) : IO Document := do
  try
    return .ofBytes name (← IO.FS.readBinFile name)
  catch
    | .noFileOrDirectory .. => return ⟨name, .error .missing⟩
    | .inappropriateType .. => return ⟨name, .error .directory⟩
    | error => return ⟨name, .error (.unreadable (toString error))⟩

/-- Prints the report on every document, in order, and gives the exit code. -/
def perform (invocation : Invocation) : IO UInt32 := do
  let mut total := Report.empty
  for name in invocation.names do
    let report := invocation.command.report (← readDocument name)
    IO.print report.listing
    IO.eprint report.diagnostics
    total := total ++ report
  return total.exitCode

end StyleLexer

/-- Runs the command that the arguments ask for. -/
def main (arguments : List String) : IO UInt32 := do
  match StyleLexer.Invocation.ofArguments? arguments with
  | some invocation => StyleLexer.perform invocation
  | none =>
      IO.eprint StyleLexer.usage
      return StyleLexer.usageExitCode
