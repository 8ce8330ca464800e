/-
The semantic check of a program.

One pass goes through the function and builds the symbol table. Expressions are
typed and folded on the way (`Expr.check`); they never change the table. Every
problem becomes a diagnostic, and the pass goes on with a placeholder: the type
`error`, the value zero, or a declaration left out. So one run reports all that
it can find.

A `Pass` is what a part of the check does: the table it leaves, and the
diagnostics and events it adds. Passes are run one after the other by
`Pass.andThen` and `Pass.each`.
-/

import Scopewise.Analysis.Event
import Scopewise.Analysis.Finding

namespace Scopewise

/-! ### Expressions -/

/-- What is learned about an expression. Type and value are independent: an
expression can have a type while its value stays unknown. -/
structure Outcome where
  type : Ty
  value : Option Constant
deriving DecidableEq, Repr

/-- The check of a variable that is read at `span`. -/
def checkName (t : Table) (name : String) (span : Span) : Outcome × List Diagnostic :=
  match t.lookup? name with
  | none => (⟨.error, none⟩, [Finding.notDeclared name span])
  | some symbol =>
      (⟨symbol.type, symbol.value⟩,
        if symbol.initialized then [] else [Finding.usedUninitialized name span])

/-- The type of a binary expression, and what is wrong with it. -/
def binaryType (left right : Ty) (span : Span) : Ty × List Diagnostic :=
  match Ty.binary left right with
  | .ok type => (type, [])
  | .error e => (.error, [Finding.badOperands e span])

/-- The value of a binary expression, and what is wrong with it. A division by
zero goes on with zero. -/
def binaryValue (left : Option Constant) (op : Operator) (right : Option Constant) (span : Span) :
    Option Constant × List Diagnostic :=
  match Constant.fold left op right with
  | .ok value => (value, [])
  | .error e => (some (.int 0), [Finding.badArithmetic e span])

/-- The type and the value of an expression under the table `t`. The operands
report before the operation, the type of an operation before its value. -/
def Expr.check (t : Table) : Expr → Outcome × List Diagnostic
  | .number value _ => (⟨.int, some (.int value)⟩, [])
  | .boolean value _ => (⟨.bool, some (.bool value)⟩, [])
  | .var name span => checkName t name span
  | .binary left op right span =>
      let (l, leftReport) := left.check t
      let (r, rightReport) := right.check t
      let (type, typeReport) := binaryType l.type r.type span
      let (value, valueReport) := binaryValue l.value op r.value span
      (⟨type, value⟩, leftReport ++ rightReport ++ typeReport ++ valueReport)

/-! ### Passes -/

/-- What a part of the check does: the table it leaves, and the diagnostics and
events it adds. -/
structure Pass where
  table : Table
  diagnostics : List Diagnostic := []
  events : List Event := []
deriving DecidableEq

namespace Pass

variable {α : Type}

/-- Goes on with `next` on the table that was left. -/
def andThen (p : Pass) (next : Table → Pass) : Pass :=
  let q := next p.table
  ⟨q.table, p.diagnostics ++ q.diagnostics, p.events ++ q.events⟩

/-- Runs `step` on each element in turn. -/
def each (step : Table → α → Pass) (t : Table) : List α → Pass
  | [] => ⟨t, [], []⟩
  | a :: rest => (step t a).andThen fun t => each step t rest

theorem andThen_assoc (p : Pass) (f g : Table → Pass) :
    (p.andThen f).andThen g = p.andThen fun t => (f t).andThen g := by
  simp [andThen]

/-- A list can be gone through in two parts. -/
theorem each_append (step : Table → α → Pass) (t : Table) (xs ys : List α) :
    each step t (xs ++ ys) = (each step t xs).andThen fun t => each step t ys := by
  induction xs generalizing t with
  | nil => simp [each, andThen]
  | cons a rest ih => simp [each, ih, andThen_assoc]

end Pass

/-- Carries out a change of the table; a refused change leaves it as it was. -/
def Table.orSame (t : Table) (change : Except ScopeError Table) : Table :=
  match change with
  | .ok changed => changed
  | .error _ => t

/-! ### Declarations -/

/-- A parameter starts with the default value of its type. A second parameter
of the same name is reported and left out. -/
def checkParam (t : Table) (p : Param) : Pass :=
  match t.lookupLocal? p.name with
  | some existing => { table := t, diagnostics := [Finding.duplicateParam p existing] }
  | none =>
      let type := Ty.ofTypeName p.type
      { table := t.orSame (t.declareWithValue p.name type type.default p.span.start)
        events := [.declaredParam p.name type] }

/-- What is wrong with storing something of type `source` in `name`. -/
def checkStore (target source : Ty) (name : String) (span : Span) : List Diagnostic :=
  if target.compatible source then [] else [Finding.cannotStore source name target span]

/-- A variable of a declaration group. A second declaration of a name is
reported and left out, initial value and all; a mismatched initial value is
reported and stored. -/
def checkVar (type : Ty) (t : Table) (v : VarDecl) : Pass :=
  match t.lookupLocal? v.name with
  | some existing => { table := t, diagnostics := [Finding.duplicateVar v existing] }
  | none =>
      match v.init with
      | some init =>
          let (outcome, report) := init.check t
          { table := t.orSame (t.declareWithValue v.name type outcome.value v.span.start)
            diagnostics := report ++ checkStore type outcome.type v.name init.span
            events := [.declaredInitialized v.name outcome.value] }
      | none =>
          { table := t.orSame (t.declare v.name type v.span.start)
            diagnostics := [Finding.declaredUninitialized v]
            events := [.declaredUninitialized v.name type] }

/-! ### Statements -/

/-- An assignment. Without a declared target it is reported and left out, value
and all; a mismatched value is reported and stored. -/
def checkAssignment (t : Table) (target : String) (value : Expr) (span : Span) : Pass :=
  match t.type? target with
  | none => { table := t, diagnostics := [Finding.notDeclared target span] }
  | some type =>
      let (outcome, report) := value.check t
      { table := (t.assign? target outcome.value).getD t
        diagnostics := report ++ checkStore type outcome.type target value.span
        events := [.assigned target outcome.value] }

/-- A return. Its type is traced and not held against the function's. -/
def checkReturn (function : String) (t : Table) : Option Expr → Pass
  | none => { table := t, events := [.returned function .void] }
  | some value =>
      let (outcome, report) := value.check t
      { table := t
        diagnostics := report
        events := [.returnedValue outcome.value, .returned function outcome.type] }

/-- A statement in the body of `function`. -/
def checkStmt (function : String) (t : Table) : Stmt → Pass
  | .declaration type vars _ => Pass.each (checkVar (.ofTypeName type)) t vars
  | .assignment target value span => checkAssignment t target value span
  | .ret value _ => checkReturn function t value
  | .expr e _ => { table := t, diagnostics := (e.check t).2 }

/-! ### Functions and programs -/

/-- A function with a result needs a return statement somewhere in its body. -/
def checkResult (f : FunctionDef) : List Diagnostic :=
  if f.returnType ≠ .void ∧ !f.hasReturn then [Finding.missingReturn f] else []

/-- Leaves the scope of the function. -/
def leaveFunction (t : Table) : Pass :=
  match t.exit with
  | .ok left => { table := left }
  | .error e => { table := t, events := [.scopeNotLeft e] }

/-- The label of the scope of a function. -/
def functionLabel (name : String) : String := "function_" ++ name

/-- A function: a scope of its own for its parameters and variables. -/
def checkFunction (t : Table) (f : FunctionDef) : Pass :=
  let opened : Pass :=
    { table := t.enter (functionLabel f.name)
      events := [.enteredFunction f.name f.returnType] }
  (((opened.andThen fun t => Pass.each checkParam t f.params).andThen
    fun t => Pass.each (checkStmt f.name) t f.body).andThen
    fun t => { table := t, diagnostics := checkResult f }).andThen
    leaveFunction

/-- The result of checking a program: the finished symbol table, every
diagnostic in report order, and the trace. -/
structure Analysis where
  table : Table
  diagnostics : List Diagnostic
  events : List Event
deriving DecidableEq

/-- Checks a program. -/
def analyze (p : Program) : Analysis :=
  let pass := checkFunction .new p.function
  { table := pass.table
    diagnostics := pass.diagnostics
    events := .started :: (pass.events ++
      [.completed (Diagnostics.errors pass.diagnostics).length
        (Diagnostics.warnings pass.diagnostics).length]) }

namespace Analysis

/-- The errors, in report order. -/
def errors (a : Analysis) : List Diagnostic := Diagnostics.errors a.diagnostics

/-- The warnings, in report order. -/
def warnings (a : Analysis) : List Diagnostic := Diagnostics.warnings a.diagnostics

/-- Whether the program is rejected. -/
def hasErrors (a : Analysis) : Bool := Diagnostics.hasErrors a.diagnostics

end Analysis

end Scopewise
