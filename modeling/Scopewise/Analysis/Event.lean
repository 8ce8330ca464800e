/-
Events: the trace that a check leaves.

An event has a message and a few named fields; `Event.line` is how it reads in a
log.
-/

import Scopewise.Scope.Table

namespace Scopewise

/-- Something that happened during a check. -/
inductive Event where
  | started
  | enteredFunction (name : String) (returnType : TypeName)
  | declaredParam (name : String) (type : Ty)
  | declaredInitialized (name : String) (value : Option Constant)
  | declaredUninitialized (name : String) (type : Ty)
  | assigned (name : String) (value : Option Constant)
  | returnedValue (value : Option Constant)
  | returned (function : String) (type : Ty)
  /-- The scope of the function could not be left. -/
  | scopeNotLeft (error : ScopeError)
  | completed (errors warnings : Nat)
deriving DecidableEq, Repr

/-- What a field of an event holds. -/
inductive EventField where
  | text (s : String)
  | count (n : Nat)
deriving DecidableEq, Repr

def EventField.render : EventField → String
  | .text s => s
  | .count n => toString n

namespace Event

def message : Event → String
  | .started => "semantic analysis started"
  | .enteredFunction .. => "analyzing function"
  | .declaredParam .. => "declared parameter"
  | .declaredInitialized .. => "declared and initialized variable"
  | .declaredUninitialized .. => "declared uninitialized variable"
  | .assigned .. => "assigned"
  | .returnedValue _ => "return with value"
  | .returned .. => "return statement"
  | .scopeNotLeft _ => "function scope already closed"
  | .completed .. => "semantic analysis completed"

/-- The fields of an event, in the order in which a log shows them. -/
def fields : Event → List (String × EventField)
  | .started => []
  | .enteredFunction name returnType =>
      [("function", .text name), ("return_type", .text returnType.text)]
  | .declaredParam name type | .declaredUninitialized name type =>
      [("name", .text name), ("ty", .text type.text)]
  | .declaredInitialized name value | .assigned name value =>
      [("name", .text name), ("value", .text (Constant.textOf value))]
  | .returnedValue value => [("value", .text (Constant.textOf value))]
  | .returned function type => [("function", .text function), ("ty", .text type.text)]
  | .scopeNotLeft error => [("error", .text error.message)]
  | .completed errors warnings => [("errors", .count errors), ("warnings", .count warnings)]

/-- The line of an event in a log, without its time. -/
def line (e : Event) : String :=
  "DEBUG " ++ e.message ++
    String.join (e.fields.map fun (name, field) => " " ++ name ++ "=" ++ field.render)

end Event

end Scopewise
