/-
Diagnostics: what a check has to say about a program.

A diagnostic is of one of seven kinds, and its kind alone decides whether it is
an error or a warning. Diagnostics are collected in a list in the order in
which they were reported; `Diagnostics.errors` and `Diagnostics.warnings` split
that list and keep the order.
-/

import Scopewise.Source.Span

namespace Scopewise

/-- How much a diagnostic weighs: a program with an error is rejected. -/
inductive Severity where
  | error
  | warning
deriving DecidableEq, Repr

namespace Severity

/-- The name under which a severity is reported. -/
def name : Severity → String
  | .error => "Error"
  | .warning => "Warning"

/-- The word that opens the text of a diagnostic. -/
def word : Severity → String
  | .error => "error"
  | .warning => "warning"

end Severity

/-- What went wrong, apart from the wording. -/
inductive DiagnosticKind where
  /-- A variable or parameter is declared again in its scope. -/
  | structuralDuplicate
  /-- A name is read or assigned that no enclosing scope declares. -/
  | unknownIdentifier
  /-- Types disagree, or arithmetic is done on something other than integers. -/
  | typeMismatch
  /-- A function that promises a result has no return statement. -/
  | missingReturn
  /-- A constant is divided by zero. -/
  | arithmeticFault
  /-- A variable is declared without an initial value. -/
  | uninitializedDeclaration
  /-- A variable is read before anything was stored in it. -/
  | uninitializedUse
deriving DecidableEq, Repr

namespace DiagnosticKind

/-- The two kinds about missing initial values are warnings. -/
def severity : DiagnosticKind → Severity
  | .uninitializedDeclaration | .uninitializedUse => .warning
  | _ => .error

/-- The name under which a kind is reported. -/
def name : DiagnosticKind → String
  | .structuralDuplicate => "StructuralDuplicate"
  | .unknownIdentifier => "UnknownIdentifier"
  | .typeMismatch => "TypeMismatch"
  | .missingReturn => "MissingReturn"
  | .arithmeticFault => "ArithmeticFault"
  | .uninitializedDeclaration => "UninitializedDeclaration"
  | .uninitializedUse => "UninitializedUse"

/-- Every kind, each once. -/
def all : List DiagnosticKind :=
  [.structuralDuplicate, .unknownIdentifier, .typeMismatch, .missingReturn, .arithmeticFault,
    .uninitializedDeclaration, .uninitializedUse]

/-- The kind with a given name. -/
def ofName? (name : String) : Option DiagnosticKind :=
  all.find? fun k => k.name == name

theorem ofName?_name (k : DiagnosticKind) : ofName? k.name = some k := by
  cases k <;> decide

end DiagnosticKind

/-- A place that helps to understand a diagnostic. -/
structure RelatedSpan where
  span : Span
  message : String
deriving DecidableEq, Repr

/-- One finding about a program. -/
structure Diagnostic where
  kind : DiagnosticKind
  message : String
  span : Option Span := none
  related : List RelatedSpan := []
deriving DecidableEq, Repr

namespace Diagnostic

/-- A diagnostic that points at `span`. -/
def located (kind : DiagnosticKind) (message : String) (span : Span) : Diagnostic :=
  { kind, message, span := some span }

/-- The severity follows from the kind. -/
def severity (d : Diagnostic) : Severity := d.kind.severity

def isError (d : Diagnostic) : Bool := d.severity == .error

def isWarning (d : Diagnostic) : Bool := d.severity == .warning

/-- The line that points at the span, if the span's start is known. -/
def arrowLine (d : Diagnostic) : String :=
  match d.span with
  | some span => if span.start.known then "\n  --> " ++ span.text else ""
  | none => ""

/-- The line for a related place, if its start is known. -/
def noteLine (r : RelatedSpan) : String :=
  if r.span.start.known then "\n  note: " ++ r.message ++ " at " ++ r.span.text else ""

/-- The severity and the message, then a line for each known place. -/
def text (d : Diagnostic) : String :=
  d.severity.word ++ ": " ++ d.message ++ d.arrowLine ++ String.join (d.related.map noteLine)

end Diagnostic

/-! ### Reported lists -/

namespace Diagnostics

/-- The errors, in report order. -/
def errors (ds : List Diagnostic) : List Diagnostic := ds.filter Diagnostic.isError

/-- The warnings, in report order. -/
def warnings (ds : List Diagnostic) : List Diagnostic := ds.filter Diagnostic.isWarning

/-- Whether the program that was reported on is rejected. -/
def hasErrors (ds : List Diagnostic) : Bool := ds.any Diagnostic.isError

/-- How many diagnostics are of kind `k`. -/
def count (k : DiagnosticKind) (ds : List Diagnostic) : Nat :=
  ds.countP fun d => d.kind == k

end Diagnostics

end Scopewise
