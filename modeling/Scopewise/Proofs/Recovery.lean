/-
Recovery leaves no trace.

A check goes on behind some faults by leaving out what is at fault: a parameter
or a variable whose name is declared already, and an assignment to a name that
is not declared. `Program.pruned` is the program in which these are not written
in the first place. It is checked like the program itself: the table is the same,
the trace is the same up to the number of errors at its end, and the report is
the same but for the reports of what is left out (`analyze_pruned`).

What is left out is said by the acts before a place. The proof puts the two
checks side by side; `Pass.Skims` ties a part of the one to what is left of it
in the other.
-/

import Scopewise.Proofs.Commutation
import Scopewise.Proofs.NameUses

namespace Scopewise

open Diagnostics Table

/-! ### What is left out -/

/-- The elements of a list, each with a name, that are not declared by what
stands before them. -/
def undeclaredOnes {α : Type} (name : α → String) (actsOf : α → List Act) (acts : List Act)
    (xs : List α) : List α :=
  ((withActs actsOf acts xs).filter fun (acts, a) => ¬ Declared acts (name a)).map (·.2)

/-- The statement assigns to a name that is not declared. -/
def Stmt.Unfounded (acts : List Act) (s : Stmt) : Prop :=
  ∃ target value span, s = .assignment target value span ∧ ¬ Declared acts target

instance (acts : List Act) : (s : Stmt) → Decidable (s.Unfounded acts)
  | .assignment target _ _ => decidable_of_iff (¬ Declared acts target) (by simp [Stmt.Unfounded])
  | .declaration .. | .ret .. | .expr .. => isFalse (by simp [Stmt.Unfounded])

/-- The statement without the variables that are declared already. A declaration
group may lose all of its variables. -/
def Stmt.pruned (acts : List Act) : Stmt → Stmt
  | .declaration type vars span =>
      .declaration type (undeclaredOnes VarDecl.name VarDecl.acts acts vars) span
  | s => s

/-- Each of the statements with those before it, and `before` before them all. -/
def placesBehind (before : List Stmt) : List Stmt → List (List Stmt × Stmt)
  | [] => []
  | s :: rest => (before, s) :: placesBehind (before ++ [s]) rest

namespace FunctionDef

/-- The acts of the parameters and then of the statements `before`. -/
def actsUpTo (f : FunctionDef) (before : List Stmt) : List Act :=
  f.params.flatMap Param.acts ++ before.flatMap Stmt.acts

/-- The statements of a function, each with those before it. -/
def places (f : FunctionDef) : List (List Stmt × Stmt) := placesBehind [] f.body

/-- The statements of `rest`, behind `before`, other than assignments to names
that are not declared. -/
def foundedBehind (f : FunctionDef) (before rest : List Stmt) : List (List Stmt × Stmt) :=
  (placesBehind before rest).filter fun (before, s) => ¬ s.Unfounded (f.actsUpTo before)

/-- The statements of a function other than assignments to names that are not
declared. -/
def founded (f : FunctionDef) : List (List Stmt × Stmt) := f.foundedBehind [] f.body

/-- The function without the parameters and variables that are declared already
and without the assignments to names that are not declared. -/
def pruned (f : FunctionDef) : FunctionDef :=
  { f with
    params := undeclaredOnes Param.name Param.acts [] f.params
    body := f.founded.map fun (before, s) => s.pruned (f.actsUpTo before) }

/-- What is reported about the parameters, the statements at `places` and the
result of a function. -/
def reports (f : FunctionDef) (places : List (List Stmt × Stmt)) : List Diagnostic :=
  f.paramsPass.diagnostics ++ places.flatMap (fun (before, s) => f.contribution before s) ++
    checkResult f

end FunctionDef

def Program.pruned (p : Program) : Program := { p with function := p.function.pruned }

theorem Program.function_pruned (p : Program) : p.pruned.function = p.function.pruned := rfl

/-! ### Two passes side by side -/

theorem Diagnostics.warnings_append (ds es : List Diagnostic) :
    warnings (ds ++ es) = warnings ds ++ warnings es :=
  List.filter_append ..

/-- The second pass leaves the same table, the same trace and the same warnings
as the first, and has the given reports, without those of duplicates. -/
structure Pass.Skims (reports : List Diagnostic) (pass pass' : Pass) : Prop where
  table : pass'.table = pass.table
  diagnostics : pass'.diagnostics = without [.structuralDuplicate] reports
  warnings : warnings pass'.diagnostics = warnings pass.diagnostics
  events : pass'.events = pass.events

namespace Pass

variable {α : Type} {step : Table → α → Pass}

namespace Skims

variable {reports : List Diagnostic} {pass pass' : Pass}

/-- A pass without a duplicate stays as it is. -/
theorem of_free (free : FreeOf [.structuralDuplicate] pass.diagnostics) :
    Skims pass.diagnostics pass pass :=
  ⟨rfl, (without_eq_self free).symm, rfl, rfl⟩

/-- A pass that only reports an error can be left out, if the error is. -/
theorem of_nothing {t : Table} {d : Diagnostic} (error : d.isWarning = false)
    (silent : without [.structuralDuplicate] reports = []) :
    Skims reports { table := t, diagnostics := [d] } (each step t []) where
  table := rfl
  diagnostics := silent.symm
  warnings := by simp [each, Diagnostics.warnings, error]
  events := rfl

theorem andThen {reports' : List Diagnostic} {next next' : Table → Pass}
    (first : Skims reports pass pass')
    (second : Skims reports' (next pass.table) (next' pass.table)) :
    Skims (reports ++ reports') (pass.andThen next) (pass'.andThen next') := by
  constructor
  · rw [andThen_table, andThen_table, first.table, second.table]
  · rw [andThen_diagnostics, first.table, first.diagnostics, second.diagnostics, without_append]
  · rw [andThen_diagnostics, andThen_diagnostics, first.table, warnings_append, warnings_append,
      first.warnings, second.warnings]
  · rw [andThen_events, andThen_events, first.table, first.events, second.events]

end Skims

end Pass

theorem undeclaredOnes_cons {α : Type} (name : α → String) (actsOf : α → List Act)
    (acts : List Act) (a : α) (rest : List α) :
    undeclaredOnes name actsOf acts (a :: rest) =
      (if Declared acts (name a) then [] else [a]) ++
        undeclaredOnes name actsOf (acts ++ actsOf a) rest := by
  by_cases declared : Declared acts (name a) <;> simp [undeclaredOnes, withActs, declared]

/-- Elements that are skimmed one by one are skimmed in a row. -/
theorem Pass.Skims.undeclaredOnes {α : Type} {step : Table → α → Pass} {name : α → String}
    {actsOf : α → List Act} {reportsOf : List Act → α → List Diagnostic} {label : String}
    (answers : ∀ m acts a, Heeds m acts →
      (step (ofFunction label m) a).Answers label (acts ++ actsOf a) (reportsOf acts a))
    (skims : ∀ m acts a, Heeds m acts →
      Skims (step (ofFunction label m) a).diagnostics (step (ofFunction label m) a)
        (each step (ofFunction label m) (if Declared acts (name a) then [] else [a])))
    {m : NameMap Symbol} {acts : List Act} (heeds : Heeds m acts) (xs : List α) :
    Skims (each step (ofFunction label m) xs).diagnostics (each step (ofFunction label m) xs)
      (each step (ofFunction label m) (undeclaredOnes name actsOf acts xs)) := by
  induction xs generalizing m acts with
  | nil => exact .of_free freeOf_nil
  | cons a rest ih =>
      rw [undeclaredOnes_cons, each_append]
      refine (skims m acts a heeds).andThen ?_
      obtain ⟨m', table, heeds'⟩ := (answers m acts a heeds).heeded
      rw [table]
      exact ih heeds'

/-! ### Parameters and variables -/

section Check

variable {label : String} {m : NameMap Symbol} {acts : List Act}

theorem checkParam_skims (heeds : Heeds m acts) (p : Param) :
    Pass.Skims (checkParam (ofFunction label m) p).diagnostics (checkParam (ofFunction label m) p)
      (Pass.each checkParam (ofFunction label m) (if Declared acts p.name then [] else [p])) := by
  cases found : m.get? p.name with
  | some existing =>
      rw [checkParam_duplicate found, if_pos (heeds.declared_of_get? found)]
      exact .of_nothing rfl rfl
  | none =>
      rw [if_neg (heeds.not_declared_of_get? found), Pass.each_singleton]
      refine .of_free ?_
      rw [checkParam_fresh found]
      exact freeOf_nil

theorem checkVar_skims (type : Ty) (heeds : Heeds m acts) (v : VarDecl) :
    Pass.Skims (checkVar type (ofFunction label m) v).diagnostics
      (checkVar type (ofFunction label m) v)
      (Pass.each (checkVar type) (ofFunction label m)
        (if Declared acts v.name then [] else [v])) := by
  cases found : m.get? v.name with
  | some existing =>
      rw [checkVar_duplicate found, if_pos (heeds.declared_of_get? found)]
      exact .of_nothing rfl rfl
  | none =>
      rw [if_neg (heeds.not_declared_of_get? found), Pass.each_singleton]
      refine .of_free ?_
      cases initial : v.init with
      | none =>
          rw [checkVar_plain found initial]
          simp
      | some init =>
          rw [checkVar_initialized found initial rfl]
          exact init.freeOf_store (by decide) _ _ _ _ _

/-! ### Statements -/

/-- A statement that is not left out is skimmed of its variables. -/
theorem checkStmt_skims (function : String) (heeds : Heeds m acts) {s : Stmt}
    (founded : ¬ s.Unfounded acts) :
    Pass.Skims (checkStmt function (ofFunction label m) s).diagnostics
      (checkStmt function (ofFunction label m) s)
      (checkStmt function (ofFunction label m) (s.pruned acts)) := by
  cases s with
  | declaration type vars span =>
      exact .undeclaredOnes (fun _ _ v heeds => checkVar_answers _ heeds v)
        (fun _ _ v heeds => checkVar_skims _ heeds v) heeds vars
  | assignment target value span =>
      refine .of_free ?_
      cases found : m.get? target with
      | none => exact absurd ⟨target, value, span, rfl, heeds.not_declared_of_get? found⟩ founded
      | some symbol =>
          rw [checkStmt, checkAssignment_declared found rfl]
          exact value.freeOf_store (by decide) _ _ _ _ _
  | ret value span =>
      refine .of_free ?_
      cases value with
      | none => exact freeOf_nil
      | some value => exact value.freeOf_check (by decide) _
  | expr e span => exact .of_free (e.freeOf_check (by decide) _)

end Check

namespace FunctionDef

variable {f : FunctionDef}

/-- What is known behind the statements `before` is what the acts up to there
say. -/
theorem heeds_passUpTo (f : FunctionDef) (before : List Stmt) :
    ∃ m, (f.passUpTo before).table = ofFunction (functionLabel f.name) m ∧
      Heeds m (f.actsUpTo before) :=
  (pass_answers { f with body := before }).heeded

/-- Checking one more statement is going up to behind it. -/
theorem table_checkStmt (f : FunctionDef) (before : List Stmt) (s : Stmt) :
    (checkStmt f.name (f.passUpTo before).table s).table = (f.passUpTo (before ++ [s])).table := by
  rw [passUpTo_append, Pass.andThen_table, Pass.each_singleton]

theorem checkStmt_unfounded {before : List Stmt} {target : String}
    (unknown : ¬ Declared (f.actsUpTo before) target) (value : Expr) (span : Span) :
    checkStmt f.name (f.passUpTo before).table (.assignment target value span) =
      { table := (f.passUpTo before).table, diagnostics := [undeclaredUse target span] } := by
  obtain ⟨m, table, heeds⟩ := f.heeds_passUpTo before
  rw [table, checkStmt, checkAssignment_unknown (heeds.get?_eq_none unknown)]
  rfl

/-- What is left of a statement behind the statements `before`: nothing at all,
or one statement. -/
theorem checkPlace_skims (f : FunctionDef) (before : List Stmt) (s : Stmt) :
    Pass.Skims ((f.foundedBehind before [s]).flatMap fun (before, s) => f.contribution before s)
      (checkStmt f.name (f.passUpTo before).table s)
      (Pass.each (checkStmt f.name) (f.passUpTo before).table
        ((f.foundedBehind before [s]).map fun (before, s) => s.pruned (f.actsUpTo before))) := by
  by_cases unfounded : s.Unfounded (f.actsUpTo before)
  · have none : f.foundedBehind before [s] = [] := by
      simp [foundedBehind, placesBehind, unfounded]
    obtain ⟨target, value, span, rfl, unknown⟩ := unfounded
    rw [none, checkStmt_unfounded unknown]
    exact .of_nothing rfl rfl
  · have one : f.foundedBehind before [s] = [(before, s)] := by
      simp [foundedBehind, placesBehind, unfounded]
    obtain ⟨m, table, heeds⟩ := f.heeds_passUpTo before
    rw [one, List.flatMap_singleton, List.map_singleton, Pass.each_singleton]
    show Pass.Skims (checkStmt f.name (f.passUpTo before).table s).diagnostics _ _
    rw [table]
    exact checkStmt_skims f.name heeds unfounded

theorem foundedBehind_cons (f : FunctionDef) (before : List Stmt) (s : Stmt) (rest : List Stmt) :
    f.foundedBehind before (s :: rest) =
      f.foundedBehind before [s] ++ f.foundedBehind (before ++ [s]) rest := by
  rw [foundedBehind, foundedBehind, foundedBehind, ← List.filter_append]
  rfl

theorem checkBody_skims (f : FunctionDef) (before rest : List Stmt) :
    Pass.Skims ((f.foundedBehind before rest).flatMap fun (before, s) => f.contribution before s)
      (Pass.each (checkStmt f.name) (f.passUpTo before).table rest)
      (Pass.each (checkStmt f.name) (f.passUpTo before).table
        ((f.foundedBehind before rest).map fun (before, s) => s.pruned (f.actsUpTo before))) := by
  induction rest generalizing before with
  | nil => exact ⟨rfl, rfl, rfl, rfl⟩
  | cons s rest ih =>
      rw [foundedBehind_cons, List.flatMap_append, List.map_append, Pass.each_append]
      refine (f.checkPlace_skims before s).andThen ?_
      rw [table_checkStmt]
      exact ih (before ++ [s])

theorem pass_skims (f : FunctionDef) :
    Pass.Skims
      (f.paramsPass.diagnostics ++
        f.founded.flatMap fun (before, s) => f.contribution before s)
      f.pass f.pruned.pass := by
  have params : Pass.Skims f.paramsPass.diagnostics f.paramsPass f.pruned.paramsPass :=
    .undeclaredOnes (fun _ _ p heeds => checkParam_answers heeds p)
      (fun _ _ p heeds => checkParam_skims heeds p) .empty f.params
  exact params.andThen (f.checkBody_skims [] f.body)

/-- No return is lost. -/
theorem checkResult_pruned (f : FunctionDef) : checkResult f.pruned = checkResult f := by
  have returns (before rest : List Stmt) :
      ((f.foundedBehind before rest).map fun (before, s) => s.pruned (f.actsUpTo before)).any
        Stmt.isReturn = rest.any Stmt.isReturn := by
    induction rest generalizing before with
    | nil => rfl
    | cons s rest ih =>
        rw [foundedBehind_cons, List.map_append, List.any_append, ih, List.any_cons]
        congr 1
        cases s with
        | assignment target value span =>
            by_cases unfounded : (Stmt.assignment target value span).Unfounded (f.actsUpTo before)
            · simp [foundedBehind, placesBehind, unfounded, Stmt.isReturn]
            · simp [foundedBehind, placesBehind, unfounded, Stmt.pruned]
        | declaration | ret | expr =>
            simp [foundedBehind, placesBehind, Stmt.Unfounded, Stmt.pruned, Stmt.isReturn]
  have same : f.pruned.hasReturn = f.hasReturn := returns [] f.body
  unfold checkResult
  rw [same]
  rfl

/-- A body reports statement by statement. -/
theorem checkBody_diagnostics (f : FunctionDef) (before rest : List Stmt) :
    (Pass.each (checkStmt f.name) (f.passUpTo before).table rest).diagnostics =
      (placesBehind before rest).flatMap fun (before, s) => f.contribution before s := by
  induction rest generalizing before with
  | nil => rfl
  | cons s rest ih =>
      rw [Pass.each, Pass.andThen_diagnostics, table_checkStmt, ih]
      rfl

theorem contribution_unfounded {before : List Stmt} {target : String}
    (unknown : ¬ Declared (f.actsUpTo before) target) (value : Expr) (span : Span) :
    f.contribution before (.assignment target value span) = [undeclaredUse target span] := by
  rw [contribution, checkStmt_unfounded unknown]

end FunctionDef

/-- A program reports place by place. -/
theorem analyze_diagnostics_places (p : Program) :
    (analyze p).diagnostics = p.function.reports p.function.places := by
  rw [analyze_diagnostics, FunctionDef.pass, Pass.andThen_diagnostics, FunctionDef.reports]
  exact congrArg (_ ++ · ++ _) (p.function.checkBody_diagnostics [] p.function.body)

theorem analyze_diagnostics_pruned (p : Program) :
    (analyze p.pruned).diagnostics =
      without [.structuralDuplicate] (p.function.reports p.function.founded) := by
  have result : FreeOf [.structuralDuplicate] (checkResult p.function) :=
    freeOf_checkResult (by decide) p.function
  rw [FunctionDef.reports, without_append, without_eq_self result, analyze_diagnostics,
    Program.function_pruned, p.function.pass_skims.diagnostics, FunctionDef.checkResult_pruned]

theorem analyze_table_pruned (p : Program) : (analyze p.pruned).table = (analyze p).table := by
  obtain ⟨m, table⟩ := p.function.pass_ofFunction
  rw [analyze_table table]
  exact analyze_table (p := p.pruned) (p.function.pass_skims.table.trans table)

/-- What is left out is reported by errors only. -/
theorem analyze_warnings_pruned (p : Program) :
    (analyze p.pruned).warnings = (analyze p).warnings := by
  rw [Analysis.warnings, Analysis.warnings, analyze_diagnostics, analyze_diagnostics,
    Program.function_pruned, warnings_append, warnings_append, p.function.pass_skims.warnings,
    FunctionDef.checkResult_pruned]

/-- **Recovery is a pure skip.** A program is checked like the program without
its repeated parameters and variables and without its assignments to names that
are not declared. The tables are the same. Of the reports, statement by statement,
those of the assignments that are left out are missing, each of which is one
report at the place of the assignment; of what is left, the reports of
duplicates are missing. The traces are the same up to the number of errors in the
last event. -/
theorem analyze_pruned (p : Program) :
    (analyze p.pruned).table = (analyze p).table ∧
      (analyze p).diagnostics = p.function.reports p.function.places ∧
      (analyze p.pruned).diagnostics =
        without [.structuralDuplicate] (p.function.reports p.function.founded) ∧
      (∀ before target value span, ¬ Declared (p.function.actsUpTo before) target →
        p.function.contribution before (.assignment target value span) =
          [undeclaredUse target span]) ∧
      ∃ events,
        (analyze p).events =
          events ++ [.completed (analyze p).errors.length (analyze p).warnings.length] ∧
        (analyze p.pruned).events =
          events ++ [.completed (analyze p.pruned).errors.length (analyze p).warnings.length] := by
  refine ⟨analyze_table_pruned p, analyze_diagnostics_places p, analyze_diagnostics_pruned p,
    ?_, _, analyze_events p, ?_⟩
  · intro before target value span unknown
    exact FunctionDef.contribution_unfounded unknown value span
  · rw [analyze_events, Program.function_pruned, p.function.pass_skims.events,
      analyze_warnings_pruned]
    rfl

/-- `f(n, n) { int a = n, n = b; b = a; a = b; int b, a; b = 1; bool b; }`: the
second `n`, the `n` and the `a` that are variables, the second `b` and the first
assignment to `b` are left out. -/
example (place : Nat → Span) :
    FunctionDef.pruned
      { returnType := .void
        name := "f"
        params := [{ type := .int, name := "n" }, { type := .bool, name := "n" }]
        body :=
          [.declaration .int
              [{ name := "a", init := some (.var "n" (place 1)) },
                { name := "n", init := some (.var "b" (place 2)) }] .unknown,
            .assignment "b" (.var "a" (place 3)) .unknown,
            .assignment "a" (.var "b" (place 4)) .unknown,
            .declaration .int [{ name := "b" }, { name := "a" }] .unknown,
            .assignment "b" (.number 1 (place 5)) .unknown,
            .declaration .bool [{ name := "b" }] .unknown] } =
      { returnType := .void
        name := "f"
        params := [{ type := .int, name := "n" }]
        body :=
          [.declaration .int [{ name := "a", init := some (.var "n" (place 1)) }] .unknown,
            .assignment "a" (.var "b" (place 4)) .unknown,
            .declaration .int [{ name := "b" }] .unknown,
            .assignment "b" (.number 1 (place 5)) .unknown,
            .declaration .bool [] .unknown] } := rfl

end Scopewise
