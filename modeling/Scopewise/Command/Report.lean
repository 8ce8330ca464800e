/-
What the checker prints.

`Report.ofFile` is the whole command as a function: from the options and the
file that was read, or why it could not be read, to the output and the exit
status. The trace is kept apart from the messages; it is printed before them.
-/

import Scopewise.Analysis.Summary
import Scopewise.Command.Options
import Scopewise.Exchange.Decode
import Scopewise.Scope.Dump
import Scopewise.Scope.Snapshot
import Scopewise.Tree.Outline

namespace Scopewise

/-- Why a file could not be read. -/
inductive ReadFailure where
  | notFound
  | isDirectory
  | notADirectory
  | denied
  | nameTooLong
  | notText
  | other (message : String)
deriving DecidableEq, Repr

/-- The wording of a failure to read. -/
def ReadFailure.message : ReadFailure → String
  | .notFound => "No such file or directory (os error 2)"
  | .isDirectory => "Is a directory (os error 21)"
  | .notADirectory => "Not a directory (os error 20)"
  | .denied => "Permission denied (os error 13)"
  | .nameTooLong => "File name too long (os error 36)"
  | .notText => "stream did not contain valid UTF-8"
  | .other message => message

/-- The output of a command. -/
structure Report where
  stdout : String := ""
  /-- The lines of the trace. -/
  log : List String := []
  stderr : String := ""
  exit : Nat := 0
deriving DecidableEq, Repr

namespace Report

/-- The report on a file that could not be read. -/
def unreadable (path : String) (failure : ReadFailure) : Report where
  stderr := "error: could not read '" ++ path ++ "': " ++ failure.message ++ "\n"
  exit := 1

/-- How a broken text is described. The wording is this library's own: `minicc`
passes on the words of its JSON reader, with a line and a column, and they are
not modelled. -/
def describe : DecodeError → String
  | .text .ended => "the text ends too early"
  | .text .malformed => "the text is not JSON"
  | e => e.message

/-- The report on a file that holds no program tree. -/
def undecodable (path : String) (e : DecodeError) : Report where
  stderr := "error: malformed program tree in '" ++ path ++ "': " ++ describe e ++ "\n"
  exit := 1

/-- Diagnostics, each with an empty line behind it. -/
def paragraphs (ds : List Diagnostic) : String := String.join (ds.map fun d => d.text ++ "\n\n")

/-- A part of the output that is only there if it was asked for. -/
def part (wanted : Bool) (text : String) : String := if wanted then text else ""

/-- The report on a program. -/
def ofProgram (options : Options) (p : Program) : Report :=
  let analysis := analyze p
  { stdout :=
      part options.emitAst (p.outlineText ++ "\n") ++
      part options.emitSymbols
        (analysis.table.dump ++ "\n\n" ++ analysis.table.statistics.text ++ "\n\n") ++
      part options.symbolsJson (analysis.table.toJson.pretty ++ "\n") ++
      analysis.summary.text ++ "\n"
    log := if options.verbose then analysis.events.map Event.line else []
    stderr := paragraphs analysis.errors ++ part (!options.quiet) (paragraphs analysis.warnings)
    exit := if analysis.summary.passed then 0 else 1 }

/-- The report on what was found under `path`. -/
def ofFile (options : Options) (path : String) (file : Except ReadFailure String) : Report :=
  match file with
  | .error failure => unreadable path failure
  | .ok text =>
      match Program.ofText text with
      | .error e => undecodable path e
      | .ok p => ofProgram options p

/-- The report on a request for the version. -/
def version : Report where
  stdout := "minicc 0.1.0\n"

/-- How the command is used. This wording is the library's own, too: the help of
`minicc` is laid out by its argument parser. -/
def usage : String :=
  "Usage: minicc [OPTIONS] <INPUT>\n\nOptions:\n" ++
    "  -q, --quiet         Suppress warning output\n" ++
    "      --emit-ast      Print the syntax tree before analysis\n" ++
    "      --emit-symbols  Print the symbol table and its statistics after analysis\n" ++
    "      --symbols-json  Print the symbol table as JSON to stdout after analysis\n" ++
    "  -v, --verbose       Trace analysis progress on stderr\n" ++
    "  -h, --help          Print help\n" ++
    "  -V, --version       Print version\n"

/-- The report on a request for help. -/
def help : Report where
  stdout := usage

/-- The report on a command line that is refused, in place of a message that names
the argument. -/
def refused (_ : UsageError) : Report where
  stderr := usage
  exit := 2

end Report

end Scopewise
