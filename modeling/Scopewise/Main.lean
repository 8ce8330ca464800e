/-
The checker as a program: reads the file that the command line names and prints
the report on it.
-/

import Scopewise.Command.Report

namespace Scopewise

/-- Whether a system error has the number `n`; some systems give it negated. -/
def hasNumber (code n : UInt32) : Bool := code == n || code == 0 - n

/-- Why reading a file failed. -/
def ReadFailure.ofError : IO.Error → ReadFailure
  | .noFileOrDirectory .. => .notFound
  | .permissionDenied .. => .denied
  | .inappropriateType _ code _ => if hasNumber code 20 then .notADirectory else .isDirectory
  | .invalidArgument _ code details =>
      if hasNumber code 36 then .nameTooLong else .other details
  | e => .other (toString e)

/-- The text of the file under `path`. -/
def readInput (path : String) : IO (Except ReadFailure String) := do
  try
    let bytes ← IO.FS.readBinFile path
    match String.fromUTF8? bytes with
    | some text => return .ok text
    | none => return .error .notText
  catch e => return .error (.ofError e)

/-- Prints a report and gives its exit status. -/
def Report.print (r : Report) : IO UInt32 := do
  IO.print r.stdout
  for line in r.log do
    IO.eprintln line
  IO.eprint r.stderr
  return r.exit.toUInt32

end Scopewise

open Scopewise in
/-- Checks the program that the arguments name. -/
def main (arguments : List String) : IO UInt32 := do
  match Invocation.ofArguments arguments with
  | .error e => (Report.refused e).print
  | .ok .version => Report.version.print
  | .ok .help => Report.help.print
  | .ok (.check input options) => (Report.ofFile options input (← readInput input)).print
