/-
Assembling a program from postfix steps.

An assembly holds the expressions that were built and not used yet, the
variables that wait for their declaration, and the parameters and statements
so far. A step that needs an operand takes it from the top of the expressions;
it fails when there is none.
-/

import Scopewise.Tree.Basic

namespace Scopewise

/-- A program under construction. -/
structure Assembly where
  /-- Expressions not used yet, the latest first. -/
  stack : List Expr := []
  /-- Variables that wait for their declaration, in order. -/
  pending : List VarDecl := []
  params : List Param := []
  body : List Stmt := []
deriving DecidableEq, Repr

/-- One step of an assembly. -/
inductive AssemblyStep where
  | number (value : Int64)
  | boolean (value : Bool)
  | var (name : String)
  /-- Joins the two latest expressions. -/
  | binary (op : Operator)
  /-- Moves the latest expression to another place. -/
  | respan (span : Span)
  | param (type : TypeName) (name : String)
  /-- Announces a variable, with the latest expression as its value if `init`. -/
  | announce (name : String) (init : Bool)
  /-- Declares all variables announced so far. -/
  | declaration (type : TypeName)
  | assignment (target : String)
  /-- Returns the latest expression if `value`. -/
  | ret (value : Bool)
  | expr
deriving DecidableEq, Repr

namespace Assembly

/-- Puts an expression on top of the stack. -/
def push (a : Assembly) (e : Expr) : Assembly := { a with stack := e :: a.stack }

/-- Takes the latest expression. -/
def pop? (a : Assembly) : Option (Expr × Assembly) :=
  match a.stack with
  | [] => none
  | e :: rest => some (e, { a with stack := rest })

/-- Takes the latest expression if one is wanted. -/
def popIf? (a : Assembly) (wanted : Bool) : Option (Option Expr × Assembly) :=
  if wanted then a.pop?.map fun (e, a) => (some e, a) else some (none, a)

/-- Appends a statement to the body. -/
def append (a : Assembly) (s : Stmt) : Assembly := { a with body := a.body ++ [s] }

/-- Carries out one step; `none` when an operand is missing. -/
def step? (a : Assembly) : AssemblyStep → Option Assembly
  | .number value => some (a.push (.number value .unknown))
  | .boolean value => some (a.push (.boolean value .unknown))
  | .var name => some (a.push (.var name .unknown))
  | .binary op => do
      let (right, a) ← a.pop?
      let (left, a) ← a.pop?
      return a.push (left.join op right)
  | .respan span => do
      let (e, a) ← a.pop?
      return a.push (e.withSpan span)
  | .param type name => some { a with params := a.params ++ [{ type, name }] }
  | .announce name init => do
      let (init, a) ← a.popIf? init
      return { a with pending := a.pending ++ [{ name, init }] }
  | .declaration type =>
      some { a.append (.declaration type a.pending .unknown) with pending := [] }
  | .assignment target => do
      let (value, a) ← a.pop?
      return a.append (.assignment target value .unknown)
  | .ret value => do
      let (value, a) ← a.popIf? value
      return a.append (.ret value .unknown)
  | .expr => do
      let (e, a) ← a.pop?
      return a.append (.expr e .unknown)

/-- The finished program. Variables that were never declared and expressions
that were never used are left out. -/
def toProgram (a : Assembly) (returnType : TypeName) (name : String) : Program where
  function := { returnType, name, params := a.params, body := a.body }

end Assembly

end Scopewise
