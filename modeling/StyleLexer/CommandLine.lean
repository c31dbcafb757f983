import StyleLexer.Report

/-!
# The command line

A command and the names of the documents it works on. A hyphen with something behind it is
a flag; two hyphens alone end the part of the command line that may hold flags.

Requests for help and for the version are left out, together with the texts that answer
them: the flags `-h`, `--help`, `-V` and `--version`, and the command `help`. No other flag
exists, so a command line with a flag or with that command has no invocation here.
-/

namespace StyleLexer

/-- What to do with each document. -/
inductive Command where
  /-- List the items of every document. -/
  | tokens
  /-- Give a verdict on every document. -/
  | check
deriving DecidableEq, Repr

namespace Command

/-- The command of exactly this name. -/
def ofName? : String → Option Command
  | "tokens" => some .tokens
  | "check" => some .check
  | _ => none

/-- The report of a command on one document. -/
def report (command : Command) (document : Document) : Report :=
  match command with
  | .tokens => document.list
  | .check => document.check

/-- The report of a command on all documents, in their order. -/
def run (command : Command) (documents : List Document) : Report :=
  .concat (documents.map command.report)

end Command

/-- A command together with the names of its documents. -/
structure Invocation where
  command : Command
  names : List String
deriving DecidableEq, Repr

namespace Invocation

/-- The argument is a flag: a hyphen with something behind it. -/
def isFlag (argument : String) : Bool :=
  match argument.toList with
  | '-' :: _ :: _ => true
  | _ => false

/-- The names among the arguments behind a command, unless there is a flag. Behind two
hyphens every argument is a name. -/
def names? : List String → Option (List String)
  | [] => some []
  | argument :: arguments =>
      if argument = "--" then some arguments
      else if isFlag argument then none
      else (names? arguments).map (argument :: ·)

/-- The invocation that a command line asks for, unless it is wrong or asks for help or the
version. There has to be a name, and none may be empty. -/
def ofArguments? : List String → Option Invocation
  | [] => none
  | command :: arguments =>
      match Command.ofName? command, names? arguments with
      | some command, some names =>
          if names.isEmpty || names.contains "" then none else some { command, names }
      | _, _ => none

end Invocation

end StyleLexer
