/-
The command line of the checker.

Arguments are looked at from left to right, and the first one that cannot stand
where it stands ends the reading. Every flag may be given once. One-letter flags
may be written together behind one dash, and behind `--` nothing is a flag.
-/

namespace Scopewise

/-- What a check should print besides its verdict. -/
structure Options where
  /-- Leave the warnings out. -/
  quiet : Bool := false
  /-- Print the outline of the tree before the check. -/
  emitAst : Bool := false
  /-- Print the symbol table and its statistics. -/
  emitSymbols : Bool := false
  /-- Print the symbol table as JSON. -/
  symbolsJson : Bool := false
  /-- Trace the check. -/
  verbose : Bool := false
deriving DecidableEq, Repr

/-- A flag that sets an option, or asks for something else than a check. -/
inductive Flag where
  | quiet
  | emitAst
  | emitSymbols
  | symbolsJson
  | verbose
  | version
  | help
deriving DecidableEq, Repr

namespace Flag

/-- The long name of a flag. -/
def ofLong? : String → Option Flag
  | "quiet" => some .quiet
  | "emit-ast" => some .emitAst
  | "emit-symbols" => some .emitSymbols
  | "symbols-json" => some .symbolsJson
  | "verbose" => some .verbose
  | "version" => some .version
  | "help" => some .help
  | _ => none

/-- The letter of a flag. -/
def ofLetter? (c : Char) : Option Flag :=
  if c = 'q' then some .quiet
  else if c = 'v' then some .verbose
  else if c = 'V' then some .version
  else if c = 'h' then some .help
  else none

end Flag

/-- Why a command line is refused. -/
inductive UsageError where
  | unknownFlag (written : String)
  | unexpectedValue (written : String)
  | repeatedFlag (flag : Flag)
  | secondInput (written : String)
  | emptyInput
  | missingInput
deriving DecidableEq, Repr

/-- What a command line asks for. -/
inductive Invocation where
  | check (input : String) (options : Options)
  | version
  | help
deriving DecidableEq, Repr

namespace Invocation

/-- What was read of a command line: the input and the flags so far. -/
structure Seen where
  input : Option String := none
  flags : List Flag := []
deriving DecidableEq, Repr

/-- The options that a list of flags sets. -/
def options (flags : List Flag) : Options where
  quiet := flags.contains .quiet
  emitAst := flags.contains .emitAst
  emitSymbols := flags.contains .emitSymbols
  symbolsJson := flags.contains .symbolsJson
  verbose := flags.contains .verbose

/-- Why reading stops before the last argument. -/
inductive Stop where
  | refused (error : UsageError)
  | version
  | help

/-- Takes a flag. -/
def takeFlag (seen : Seen) (flag : Flag) : Except Stop Seen :=
  match flag with
  | .version => .error .version
  | .help => .error .help
  | flag =>
      if seen.flags.contains flag then .error (.refused (.repeatedFlag flag))
      else .ok { seen with flags := flag :: seen.flags }

/-- Takes the flags written together behind one dash. -/
def takeLetters (written : String) (seen : Seen) : List Char → Except Stop Seen
  | [] => .ok seen
  | c :: rest =>
      match Flag.ofLetter? c with
      | none => .error (.refused (.unknownFlag written))
      | some flag =>
          match takeFlag seen flag with
          | .error stop => .error stop
          | .ok seen => takeLetters written seen rest

/-- Takes a flag written by its long name; no flag takes a value. -/
def takeLong (written : String) (seen : Seen) (name : List Char) : Except Stop Seen :=
  match Flag.ofLong? (String.ofList (name.takeWhile (· ≠ '='))) with
  | none => .error (.refused (.unknownFlag written))
  | some flag =>
      if name.contains '=' then .error (.refused (.unexpectedValue written))
      else takeFlag seen flag

/-- Takes the input. -/
def takeInput (written : String) (seen : Seen) : Except Stop Seen :=
  if seen.input.isSome then .error (.refused (.secondInput written))
  else if written.isEmpty then .error (.refused .emptyInput)
  else .ok { seen with input := some written }

/-- Takes an argument that may be a flag. -/
def takeArgument (seen : Seen) (written : String) : Except Stop Seen :=
  match written.toList with
  | '-' :: '-' :: name => takeLong written seen name
  | '-' :: c :: letters => takeLetters written seen (c :: letters)
  | _ => takeInput written seen

/-- Takes all arguments; behind `--` each of them is an input. -/
def takeAll (seen : Seen) : List String → Except Stop Seen
  | [] => .ok seen
  | "--" :: inputs => inputs.foldlM (fun seen written => takeInput written seen) seen
  | written :: rest =>
      match takeArgument seen written with
      | .error stop => .error stop
      | .ok seen => takeAll seen rest

/-- What the arguments ask for. -/
def ofArguments (arguments : List String) : Except UsageError Invocation :=
  match takeAll {} arguments with
  | .error (.refused error) => .error error
  | .error .version => .ok .version
  | .error .help => .ok .help
  | .ok seen =>
      match seen.input with
      | some input => .ok (.check input (options seen.flags))
      | none => .error .missingInput

end Invocation

end Scopewise
