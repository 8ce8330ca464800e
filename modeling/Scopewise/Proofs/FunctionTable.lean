/-
The table while a function is checked.

A check enters one scope and leaves it at the end, so every table in between
has one shape: an empty global scope and the scope of the function, which is
current. `Table.ofFunction` is that shape; all it leaves open is the symbols of
the function.

The equations here say what the table operations and the parts of the check do
to such a table, in terms of the symbols alone. Proofs about a check start from
them and never look at the list of scopes again.
-/

import Scopewise.Analysis.Check

namespace Scopewise

namespace Table

/-- The table of a function that is being checked, with the symbols declared so
far. -/
def ofFunction (label : String) (symbols : NameMap Symbol) : Table where
  scopes :=
    [{ globalScope with children := [1] },
      { name := scopeName label 1, symbols, parent := some 0 }]
  current := 1
  counter := 1

/-- The table of a function that was checked to its end: the same scopes, with
the global one current. -/
def leftFunction (label : String) (symbols : NameMap Symbol) : Table :=
  { ofFunction label symbols with current := 0 }

section Operations

variable (label : String) (m : NameMap Symbol)

theorem exit_ofFunction : (ofFunction label m).exit = .ok (leftFunction label m) := rfl

@[simp] theorem lookupLocal?_ofFunction (name : String) :
    (ofFunction label m).lookupLocal? name = m.get? name := rfl

theorem declares_one (name : String) : (ofFunction label m).declares name 1 = m.contains name :=
  rfl

theorem declares_zero (name : String) : (ofFunction label m).declares name 0 = false := rfl

theorem chain_ofFunction : (ofFunction label m).chain = [1, 0] := rfl

/-- The global scope declares nothing, so a name is found in the function or
not at all. -/
theorem resolve?_ofFunction (name : String) :
    (ofFunction label m).resolve? name = if m.contains name then some 1 else none := by
  rw [resolve?, chain_ofFunction, List.find?_cons, declares_one, List.find?_cons, declares_zero]
  cases m.contains name <;> rfl

@[simp] theorem lookup?_ofFunction (name : String) :
    (ofFunction label m).lookup? name = m.get? name := by
  rw [lookup?, resolve?_ofFunction]
  cases found : m.get? name with
  | none => simp [NameMap.contains, found]
  | some symbol =>
      rw [NameMap.contains, found]
      exact found

@[simp] theorem type?_ofFunction (name : String) :
    (ofFunction label m).type? name = (m.get? name).map (·.type) := by
  rw [type?, lookup?_ofFunction]

/-- A new name goes into the scope of the function. -/
theorem insert_ofFunction (symbol : Symbol) (fresh : m.get? symbol.name = none) :
    (ofFunction label m).insert symbol =
      .ok (ofFunction label (m.insert symbol.name symbol)) := by
  have absent : (ofFunction label m).currentScope.symbols.contains symbol.name = false := by
    show (m.get? symbol.name).isSome = false
    rw [fresh]
    rfl
  rw [insert, absent]
  rfl

theorem orSame_insert_ofFunction (symbol : Symbol) (fresh : m.get? symbol.name = none) :
    (ofFunction label m).orSame ((ofFunction label m).insert symbol) =
      ofFunction label (m.insert symbol.name symbol) := by
  rw [insert_ofFunction label m symbol fresh]
  rfl

/-- A value is stored in the symbol of the function. -/
theorem assign?_ofFunction {name : String} (declared : (m.get? name).isSome)
    (value : Option Constant) :
    (ofFunction label m).assign? name value =
      some (ofFunction label (m.modify name (·.store value))) := by
  rw [assign?, modify?, resolve?_ofFunction]
  simp only [NameMap.contains, declared]
  rfl

end Operations

end Table

/-! ### The parts of a check -/

section Check

open Table

variable {label : String} {m : NameMap Symbol}

theorem checkParam_duplicate {p : Param} {existing : Symbol}
    (found : m.get? p.name = some existing) :
    checkParam (ofFunction label m) p =
      { table := ofFunction label m, diagnostics := [Finding.duplicateParam p existing] } := by
  simp [checkParam, found]

theorem checkParam_fresh {p : Param} (fresh : m.get? p.name = none) :
    checkParam (ofFunction label m) p =
      { table := ofFunction label (m.insert p.name (.withValue p.name (.ofTypeName p.type)
          (Ty.ofTypeName p.type).default p.span.start))
        events := [.declaredParam p.name (.ofTypeName p.type)] } := by
  simp only [checkParam, lookupLocal?_ofFunction, fresh, declareWithValue]
  rw [orSame_insert_ofFunction label m (.withValue ..) fresh]
  rfl

theorem checkVar_duplicate {type : Ty} {v : VarDecl} {existing : Symbol}
    (found : m.get? v.name = some existing) :
    checkVar type (ofFunction label m) v =
      { table := ofFunction label m, diagnostics := [Finding.duplicateVar v existing] } := by
  simp [checkVar, found]

theorem checkVar_plain {type : Ty} {v : VarDecl} (fresh : m.get? v.name = none)
    (plain : v.init = none) :
    checkVar type (ofFunction label m) v =
      { table := ofFunction label (m.insert v.name (.declared v.name type v.span.start))
        diagnostics := [Finding.declaredUninitialized v]
        events := [.declaredUninitialized v.name type] } := by
  simp only [checkVar, lookupLocal?_ofFunction, fresh, plain, declare]
  rw [orSame_insert_ofFunction label m (.declared ..) fresh]
  rfl

theorem checkVar_initialized {type : Ty} {v : VarDecl} {init : Expr} {outcome : Outcome}
    {report : List Diagnostic} (fresh : m.get? v.name = none) (initial : v.init = some init)
    (checked : init.check (ofFunction label m) = (outcome, report)) :
    checkVar type (ofFunction label m) v =
      { table := ofFunction label
          (m.insert v.name (.withValue v.name type outcome.value v.span.start))
        diagnostics := report ++ checkStore type outcome.type v.name init.span
        events := [.declaredInitialized v.name outcome.value] } := by
  simp only [checkVar, lookupLocal?_ofFunction, fresh, initial, checked, declareWithValue]
  rw [orSame_insert_ofFunction label m (.withValue ..) fresh]
  rfl

theorem checkAssignment_unknown {target : String} {value : Expr} {span : Span}
    (unknown : m.get? target = none) :
    checkAssignment (ofFunction label m) target value span =
      { table := ofFunction label m, diagnostics := [Finding.notDeclared target span] } := by
  simp [checkAssignment, unknown]

theorem checkAssignment_declared {target : String} {value : Expr} {span : Span} {symbol : Symbol}
    {outcome : Outcome} {report : List Diagnostic} (found : m.get? target = some symbol)
    (checked : value.check (ofFunction label m) = (outcome, report)) :
    checkAssignment (ofFunction label m) target value span =
      { table := ofFunction label (m.modify target (·.store outcome.value))
        diagnostics := report ++ checkStore symbol.type outcome.type target value.span
        events := [.assigned target outcome.value] } := by
  simp [checkAssignment, found, checked, assign?_ofFunction]

end Check

/-! ### Whole passes -/

section Passes

open Table

@[simp] theorem Pass.andThen_table (p : Pass) (next : Table → Pass) :
    (p.andThen next).table = (next p.table).table := rfl

@[simp] theorem Pass.andThen_diagnostics (p : Pass) (next : Table → Pass) :
    (p.andThen next).diagnostics = p.diagnostics ++ (next p.table).diagnostics := rfl

@[simp] theorem Pass.andThen_events (p : Pass) (next : Table → Pass) :
    (p.andThen next).events = p.events ++ (next p.table).events := rfl

theorem Pass.each_singleton {α : Type} (step : Table → α → Pass) (t : Table) (a : α) :
    Pass.each step t [a] = step t a := by
  simp [each, andThen]

/-- A pass over a list leaves the table of the function if every step does. -/
theorem Pass.each_ofFunction {α : Type} {label : String} {step : Table → α → Pass}
    (keeps : ∀ m a, ∃ m', (step (ofFunction label m) a).table = ofFunction label m')
    (m : NameMap Symbol) (xs : List α) :
    ∃ m', (Pass.each step (ofFunction label m) xs).table = ofFunction label m' := by
  induction xs generalizing m with
  | nil => exact ⟨m, rfl⟩
  | cons a rest ih =>
      obtain ⟨m', left⟩ := keeps m a
      obtain ⟨last, final⟩ := ih m'
      refine ⟨last, ?_⟩
      rw [Pass.each, Pass.andThen_table, left]
      exact final

theorem checkParam_ofFunction {label : String} (m : NameMap Symbol) (p : Param) :
    ∃ m', (checkParam (ofFunction label m) p).table = ofFunction label m' := by
  cases found : m.get? p.name with
  | some existing => exact ⟨m, by rw [checkParam_duplicate found]⟩
  | none => exact ⟨_, by rw [checkParam_fresh found]⟩

theorem checkVar_ofFunction {label : String} (type : Ty) (m : NameMap Symbol) (v : VarDecl) :
    ∃ m', (checkVar type (ofFunction label m) v).table = ofFunction label m' := by
  cases found : m.get? v.name with
  | some existing => exact ⟨m, by rw [checkVar_duplicate found]⟩
  | none =>
      cases initial : v.init with
      | none => exact ⟨_, by rw [checkVar_plain found initial]⟩
      | some init => exact ⟨_, by rw [checkVar_initialized found initial rfl]⟩

theorem checkStmt_ofFunction {label : String} (function : String) (m : NameMap Symbol)
    (s : Stmt) : ∃ m', (checkStmt function (ofFunction label m) s).table = ofFunction label m' := by
  cases s with
  | declaration type vars span => exact Pass.each_ofFunction (checkVar_ofFunction _) m vars
  | assignment target value span =>
      cases found : m.get? target with
      | none => exact ⟨m, by rw [checkStmt, checkAssignment_unknown found]⟩
      | some symbol => exact ⟨_, by rw [checkStmt, checkAssignment_declared found rfl]⟩
  | ret value span => cases value <;> exact ⟨m, rfl⟩
  | expr e span => exact ⟨m, rfl⟩

namespace FunctionDef

/-- The part of the check that goes through the parameters. -/
def paramsPass (f : FunctionDef) : Pass :=
  Pass.each checkParam (ofFunction (functionLabel f.name) .empty) f.params

/-- The check of a function inside its scope: the parameters, then the body. -/
def pass (f : FunctionDef) : Pass :=
  f.paramsPass.andThen fun t => Pass.each (checkStmt f.name) t f.body

theorem paramsPass_ofFunction (f : FunctionDef) :
    ∃ m, f.paramsPass.table = ofFunction (functionLabel f.name) m :=
  Pass.each_ofFunction checkParam_ofFunction .empty f.params

theorem pass_ofFunction (f : FunctionDef) :
    ∃ m, f.pass.table = ofFunction (functionLabel f.name) m := by
  obtain ⟨m, params⟩ := f.paramsPass_ofFunction
  rw [pass, Pass.andThen_table, params]
  exact Pass.each_ofFunction (checkStmt_ofFunction f.name) m f.body

end FunctionDef

/-- The scope of the function can always be left. -/
theorem leaveFunction_ofFunction (label : String) (m : NameMap Symbol) :
    leaveFunction (ofFunction label m) = { table := leftFunction label m } := by
  rw [leaveFunction, exit_ofFunction]

/-- The parameters and the statements report, and then a missing return. -/
theorem analyze_diagnostics (p : Program) :
    (analyze p).diagnostics = p.function.pass.diagnostics ++ checkResult p.function := by
  obtain ⟨m, table⟩ := p.function.pass_ofFunction
  have closing : (leaveFunction p.function.pass.table).diagnostics = [] := by
    rw [table, leaveFunction_ofFunction]
  show [] ++ p.function.paramsPass.diagnostics ++ _ ++ checkResult p.function ++
    (leaveFunction p.function.pass.table).diagnostics = _
  rw [closing, List.append_nil, List.nil_append]
  rfl

/-- The trace of the parameters and the statements stands behind two opening
events and before a closing one. -/
theorem analyze_events (p : Program) :
    (analyze p).events =
      [.started, .enteredFunction p.function.name p.function.returnType] ++
        p.function.pass.events ++
        [.completed (analyze p).errors.length (analyze p).warnings.length] := by
  obtain ⟨m, table⟩ := p.function.pass_ofFunction
  have closing : (leaveFunction p.function.pass.table).events = [] := by
    rw [table, leaveFunction_ofFunction]
  show .started :: ([.enteredFunction p.function.name p.function.returnType] ++
    p.function.paramsPass.events ++ _ ++ [] ++ (leaveFunction p.function.pass.table).events ++
    _) = _
  rw [closing, List.append_nil, List.append_nil, List.append_assoc [_]]
  rfl

/-- The final table holds the symbols that the body leaves. -/
theorem analyze_table {p : Program} {m : NameMap Symbol}
    (left : p.function.pass.table = ofFunction (functionLabel p.function.name) m) :
    (analyze p).table = leftFunction (functionLabel p.function.name) m := by
  show (leaveFunction p.function.pass.table).table = _
  rw [left, leaveFunction_ofFunction]

end Passes

end Scopewise
