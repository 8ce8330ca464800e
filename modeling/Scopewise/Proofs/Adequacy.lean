/-
The check is adequate for running programs.

`Program.run?` runs a program, and `analyze` checks it without running it. The
check reports one of the `stuckKinds` exactly if the run is stuck, and after a
run that is not stuck the symbols of the function are what the store holds
(`analyze_adequate`).

The proof is a simulation: `Store.Agrees` ties a store to the symbols of the
function, and each piece of the check is shown to follow the run. A stuck step
is always one at which the check reports, so what the check does behind its
first report never matters.
-/

import Scopewise.Proofs.Interpreter
import Scopewise.Proofs.Simulation

namespace Scopewise

open Table Diagnostics

/-- The kinds of diagnostic that tell of a stuck run. -/
def stuckKinds : List DiagnosticKind :=
  [.structuralDuplicate, .unknownIdentifier, .typeMismatch, .arithmeticFault, .uninitializedUse]

/-! ### What a check knows of a variable -/

/-- The constant of a datum; the unit has none. -/
def Datum.constant? : Datum → Option Constant
  | .int value => some (.int value)
  | .bool value => some (.bool value)
  | .unit => none

/-- What a check keeps track of in a variable. -/
structure Knowledge where
  type : Ty
  initialized : Bool
  value : Option Constant
deriving DecidableEq, Repr

/-- What a symbol says of its variable. -/
def Symbol.knowledge (s : Symbol) : Knowledge := ⟨s.type, s.initialized, s.value⟩

/-- What there is to know of a cell: its type, that it is not unset, and the
constant that it holds. -/
def Cell.knowledge (c : Cell) : Knowledge :=
  ⟨.ofTypeName c.type, c.contents.isSome, c.contents.bind Datum.constant?⟩

/-- The symbols know the store: the same names, and of each name what there is
to know. -/
def Store.Agrees (store : Store) (m : NameMap Symbol) : Prop :=
  ∀ name, (m.get? name).map Symbol.knowledge = (store name).map Cell.knowledge

namespace Store.Agrees

variable {store : Store} {m : NameMap Symbol}

theorem get?_eq_none_iff (agrees : store.Agrees m) {name : String} :
    m.get? name = none ↔ store name = none := by
  rw [← Option.map_eq_none_iff, agrees name, Option.map_eq_none_iff]

theorem get?_eq_some (agrees : store.Agrees m) {name : String} {cell : Cell}
    (found : store name = some cell) :
    ∃ symbol, m.get? name = some symbol ∧ symbol.knowledge = cell.knowledge := by
  have known := agrees name
  rw [found] at known
  exact Option.map_eq_some_iff.mp known

theorem declare?_duplicate (agrees : store.Agrees m) {name : String} {existing : Symbol}
    {cell : Cell} (found : m.get? name = some existing) : store.declare? name cell = none := by
  cases absent : store name with
  | none => rw [agrees.get?_eq_none_iff.mpr absent] at found; cases found
  | some old => simp [Store.declare?, absent]

theorem declare?_fresh (agrees : store.Agrees m) {name : String} {cell : Cell}
    (fresh : m.get? name = none) : store.declare? name cell = some (store.set name cell) := by
  simp [Store.declare?, agrees.get?_eq_none_iff.mp fresh]

/-- A new variable is added on both sides. -/
theorem insert (agrees : store.Agrees m) {name : String} {cell : Cell} {symbol : Symbol}
    (known : symbol.knowledge = cell.knowledge) :
    (store.set name cell).Agrees (m.insert name symbol) := by
  intro other
  rw [NameMap.get?_insert, Store.set]
  split
  · simp [known]
  · exact agrees other

/-- A variable is changed on both sides. -/
theorem modify (agrees : store.Agrees m) {name : String} {cell changed : Cell}
    {f : Symbol → Symbol} (found : store name = some cell)
    (known : ∀ s : Symbol, s.knowledge = cell.knowledge → (f s).knowledge = changed.knowledge) :
    (store.set name changed).Agrees (m.modify name f) := by
  intro other
  rw [NameMap.get?_modify, Store.set]
  split
  next this =>
    subst this
    obtain ⟨symbol, declared, same⟩ := agrees.get?_eq_some found
    simp [declared, known symbol same]
  next => exact agrees other

end Store.Agrees

theorem Store.agrees_empty : Store.Agrees .empty .empty := fun _ => rfl

/-! ### Expressions -/

/-- The outcome of checking an expression that computes `d`. -/
def Datum.outcome (d : Datum) : Outcome := ⟨.ofTypeName d.kind, d.constant?⟩

/-- The arithmetic of 64-bit words is that of the integers, brought back to 64
bits. -/
theorem Constant.apply_eq_compute? (op : Operator) (left right : Int64) :
    Constant.apply op left right =
      match op.compute? left right with
      | some value => .ok value
      | none => .error .divisionByZero := by
  cases op with
  | plus => simp [apply, Operator.compute?]
  | minus => simp [apply, Operator.compute?]
  | times => simp [apply, Operator.compute?]
  | divide =>
      have zero : right.toInt = 0 ↔ right = 0 := by
        rw [← Int64.toInt_zero, Int64.toInt_inj]
      have quotient : Int64.ofInt (left.toInt.tdiv right.toInt) = left / right := by
        rw [← Int64.toInt_inj, Int64.toInt_ofInt, Int64.toInt_div]
      simp only [apply, Operator.compute?, zero, quotient]
      split <;> rfl

section Expressions

variable {label : String} {store : Store} {m : NameMap Symbol}

/-- A variable that can be read is checked without a report. -/
theorem checkName_of_read? (agrees : store.Agrees m) {name : String} {span : Span} {d : Datum}
    (read : store.read? name = some d) :
    checkName (ofFunction label m) name span = (d.outcome, []) := by
  obtain ⟨cell, found, holds⟩ := Option.bind_eq_some_iff.mp read
  obtain ⟨symbol, declared, same⟩ := agrees.get?_eq_some found
  have kind : d.kind = cell.type := cell.fits d holds
  simp only [Symbol.knowledge, Cell.knowledge, holds, Knowledge.mk.injEq, Option.isSome_some,
    Option.bind_some] at same
  obtain ⟨type, initialized, value⟩ := same
  simp [checkName, declared, type, initialized, value, kind, Datum.outcome]

/-- A variable that cannot be read is reported: it is undeclared or unset. -/
theorem checkName_of_stuck (agrees : store.Agrees m) {name : String} {span : Span}
    (stuck : store.read? name = none) :
    ¬ FreeOf stuckKinds (checkName (ofFunction label m) name span).2 := by
  cases found : store name with
  | none =>
      have unknown := agrees.get?_eq_none_iff.mpr found
      simp [checkName, unknown, stuckKinds]
  | some cell =>
      obtain ⟨symbol, declared, same⟩ := agrees.get?_eq_some found
      have unset : cell.contents = none := by simpa [Store.read?, found] using stuck
      have initialized : symbol.initialized = false := by
        simpa [Symbol.knowledge, Cell.knowledge, unset] using congrArg Knowledge.initialized same
      simp [checkName, declared, initialized, stuckKinds]

/-- Two data that can be combined are checked without a report. -/
theorem binary_of_combine? {op : Operator} {l r d : Datum} (span : Span)
    (combined : Datum.combine? op l r = some d) :
    binaryType l.outcome.type r.outcome.type span = (d.outcome.type, []) ∧
      binaryValue l.outcome.value op r.outcome.value span = (d.outcome.value, []) := by
  cases l with
  | bool _ => cases combined
  | unit => cases combined
  | int left =>
      cases r with
      | bool _ => cases combined
      | unit => cases combined
      | int right =>
          obtain ⟨value, computed, rfl⟩ := Option.map_eq_some_iff.mp combined
          refine ⟨rfl, ?_⟩
          have folded : Constant.apply op left right = .ok value := by
            rw [Constant.apply_eq_compute?, computed]
          simp [binaryValue, Constant.fold, Datum.outcome, Datum.constant?, Constant.toInt?, folded,
            Except.map]

/-- Two data that cannot be combined are reported: one is no integer, or the
divisor is zero. -/
theorem binary_of_stuck {op : Operator} {l r : Datum} {span : Span}
    (stuck : Datum.combine? op l r = none) :
    ¬ (FreeOf stuckKinds (binaryType l.outcome.type r.outcome.type span).2 ∧
      FreeOf stuckKinds (binaryValue l.outcome.value op r.outcome.value span).2) := by
  rintro ⟨typed, folded⟩
  obtain ⟨isLeft, isRight⟩ := (freeOf_binaryType (by simp [stuckKinds])).mp typed
  cases l with
  | bool _ => cases isLeft
  | unit => cases isLeft
  | int left =>
      cases r with
      | bool _ => cases isRight
      | unit => cases isRight
      | int right =>
          have fault : op.compute? left right = none := Option.map_eq_none_iff.mp stuck
          have failed : Constant.apply op left right = .error .divisionByZero := by
            rw [Constant.apply_eq_compute?, fault]
          simp [binaryValue, Constant.fold, Datum.outcome, Datum.constant?, Constant.toInt?, failed,
            Except.map, stuckKinds] at folded

/-- An expression that can be evaluated is checked without a report, and its
type and value are those of the datum. -/
theorem Expr.check_of_eval? (agrees : store.Agrees m) {e : Expr} {d : Datum}
    (computes : e.eval? store = some d) : e.check (ofFunction label m) = (d.outcome, []) := by
  induction e generalizing d with
  | number value span => cases computes; rfl
  | boolean value span => cases computes; rfl
  | var name span => exact checkName_of_read? agrees computes
  | binary left op right span ihLeft ihRight =>
      simp only [Expr.eval?, Option.bind_eq_bind, Option.bind_eq_some_iff] at computes
      obtain ⟨l, leftComputes, r, rightComputes, combined⟩ := computes
      obtain ⟨type, value⟩ := binary_of_combine? span combined
      simp only [Expr.check, ihLeft leftComputes, ihRight rightComputes, type, value]
      rfl

/-- An expression that cannot be evaluated is reported. -/
theorem Expr.check_of_stuck (agrees : store.Agrees m) {e : Expr} (stuck : e.eval? store = none) :
    ¬ FreeOf stuckKinds (e.check (ofFunction label m)).2 := by
  induction e with
  | number value span => cases stuck
  | boolean value span => cases stuck
  | var name span => exact checkName_of_stuck agrees stuck
  | binary left op right span ihLeft ihRight =>
      simp only [Expr.check, freeOf_append]
      rintro ⟨⟨⟨leftFree, rightFree⟩, typed⟩, folded⟩
      cases leftComputes : left.eval? store with
      | none => exact ihLeft leftComputes leftFree
      | some l =>
          cases rightComputes : right.eval? store with
          | none => exact ihRight rightComputes rightFree
          | some r =>
              rw [check_of_eval? agrees leftComputes, check_of_eval? agrees rightComputes]
                at typed folded
              simp only [Expr.eval?, leftComputes, rightComputes] at stuck
              exact binary_of_stuck stuck ⟨typed, folded⟩

end Expressions

/-! ### Steps and runs -/

/-- The pass of a check follows a piece of a run. -/
def FollowsRun (label : String) (pass : Pass) (ran : Option Store) : Prop :=
  pass.Follows stuckKinds label Store.Agrees fun store => ran = some store

namespace FollowsRun

variable {label : String} {pass : Pass}

/-- A stuck piece is one that is reported. -/
theorem stuck (reports : ¬ FreeOf stuckKinds pass.diagnostics) : FollowsRun label pass none :=
  .of_stuck reports nofun

theorem goes_on {store : Store} {m : NameMap Symbol} (free : FreeOf stuckKinds pass.diagnostics)
    (table : pass.table = ofFunction label m) (agrees : store.Agrees m) :
    FollowsRun label pass (some store) :=
  .of_result free table (fun _ => by rw [Option.some_inj, eq_comm]) agrees

theorem andThen {ran : Option Store} {next : Table → Pass} {run? : Store → Option Store}
    (first : FollowsRun label pass ran)
    (second : ∀ {store m}, store.Agrees m →
      FollowsRun label (next (ofFunction label m)) (run? store)) :
    FollowsRun label (pass.andThen next) (ran.bind run?) :=
  (Pass.Follows.andThen first second).congr fun _ => Option.bind_eq_some_iff

/-- Pieces that are followed one by one are followed in a row. -/
theorem each {α : Type} {step : Table → α → Pass} {run? : Store → α → Option Store}
    (follows : ∀ {store m}, store.Agrees m → ∀ a,
      FollowsRun label (step (ofFunction label m) a) (run? store a))
    {store : Store} {m : NameMap Symbol} (agrees : store.Agrees m) (xs : List α) :
    FollowsRun label (Pass.each step (ofFunction label m) xs) (xs.foldlM run? store) :=
  (Pass.Follows.each follows agrees xs).congr fun _ => steps_iff_foldlM.symm

end FollowsRun

section Steps

variable {label : String} {store : Store} {m : NameMap Symbol}

theorem followsRun_param (agrees : store.Agrees m) (p : Param) :
    FollowsRun label (checkParam (ofFunction label m) p) (p.run? store) := by
  cases found : m.get? p.name with
  | some existing =>
      rw [Param.run?, agrees.declare?_duplicate found, checkParam_duplicate found]
      exact .stuck (by simp [stuckKinds])
  | none =>
      rw [Param.run?, agrees.declare?_fresh found, checkParam_fresh found]
      refine .goes_on freeOf_nil rfl (agrees.insert ?_)
      cases p.type <;> rfl

/-- An expression that can be stored in a variable of a type is accepted there,
and the variable then holds the value that the check has found. -/
theorem Expr.check_of_cell? (agrees : store.Agrees m) {e : Expr} {type : TypeName} {cell : Cell}
    (held : e.cell? store type = some cell) :
    ∃ value, e.check (ofFunction label m) = (⟨.ofTypeName type, value⟩, []) ∧
      cell.knowledge = ⟨.ofTypeName type, true, value⟩ := by
  obtain ⟨d, computes, held⟩ := Option.bind_eq_some_iff.mp held
  unfold Cell.holding? at held
  split at held
  next same =>
    cases held
    refine ⟨d.constant?, ?_, rfl⟩
    rw [check_of_eval? agrees computes, Datum.outcome, same]
  next => cases held

/-- An expression that cannot be stored in a variable of a type is reported:
it is stuck, or of another type. -/
theorem Expr.check_of_no_cell (agrees : store.Agrees m) {e : Expr} {type : TypeName}
    {name : String} {span : Span} (stuck : e.cell? store type = none) :
    ¬ FreeOf stuckKinds ((e.check (ofFunction label m)).2 ++
      checkStore (.ofTypeName type) (e.check (ofFunction label m)).1.type name span) := by
  intro free
  obtain ⟨checked, stored⟩ := freeOf_append.mp free
  cases computes : e.eval? store with
  | none => exact check_of_stuck agrees computes checked
  | some d =>
      rw [check_of_eval? agrees computes] at stored
      have same : d.kind = type := (freeOf_checkStore_ofTypeName (by simp [stuckKinds])).mp stored
      simp [Expr.cell?, computes, Cell.holding?, same] at stuck

theorem followsRun_var (type : TypeName) (agrees : store.Agrees m) (v : VarDecl) :
    FollowsRun label (checkVar (.ofTypeName type) (ofFunction label m) v) (v.run? type store) := by
  cases found : m.get? v.name with
  | some existing =>
      have stuck : v.run? type store = none := by
        unfold VarDecl.run?
        split
        · exact agrees.declare?_duplicate found
        · simp [agrees.declare?_duplicate found]
      rw [stuck, checkVar_duplicate found]
      exact .stuck (by simp [stuckKinds])
  | none =>
      cases initial : v.init with
      | none =>
          rw [VarDecl.run?, initial, checkVar_plain found initial]
          simp only [agrees.declare?_fresh found]
          exact .goes_on (by simp [stuckKinds]) rfl (agrees.insert rfl)
      | some init =>
          cases held : init.cell? store type with
          | none =>
              rw [VarDecl.run?, initial, checkVar_initialized found initial rfl]
              simp only [held]
              exact .stuck (Expr.check_of_no_cell agrees held)
          | some cell =>
              obtain ⟨value, checked, known⟩ := Expr.check_of_cell? agrees held
              rw [VarDecl.run?, initial, checkVar_initialized found initial checked]
              simp only [held, Option.bind_eq_bind, Option.bind_some, agrees.declare?_fresh found]
              refine .goes_on ?_ rfl (agrees.insert known.symm)
              simpa using (freeOf_checkStore_ofTypeName (by simp [stuckKinds])).mpr rfl

theorem followsRun_assignment (agrees : store.Agrees m) (target : String) (value : Expr)
    (span : Span) :
    FollowsRun label (checkAssignment (ofFunction label m) target value span)
      ((Stmt.assignment target value span).run? store) := by
  cases found : store target with
  | none =>
      have unknown := agrees.get?_eq_none_iff.mpr found
      rw [checkAssignment_unknown unknown, Stmt.run?, found]
      exact .stuck (by simp [stuckKinds])
  | some cell =>
      obtain ⟨symbol, declared, same⟩ := agrees.get?_eq_some found
      have type : symbol.type = .ofTypeName cell.type := congrArg Knowledge.type same
      rw [Stmt.run?, found, Option.bind_eq_bind, Option.bind_some]
      cases held : value.cell? store cell.type with
      | none =>
          rw [checkAssignment_declared declared rfl, type]
          exact .stuck (Expr.check_of_no_cell agrees held)
      | some changed =>
          obtain ⟨known, checked, holds⟩ := Expr.check_of_cell? agrees held
          rw [checkAssignment_declared declared checked, type]
          refine .goes_on ?_ rfl (agrees.modify found fun s before => ?_)
          · simpa using (freeOf_checkStore_ofTypeName (by simp [stuckKinds])).mpr rfl
          · have kept : s.type = .ofTypeName cell.type := congrArg Knowledge.type before
            rw [holds, Symbol.knowledge, Symbol.store, kept]

/-- A statement that only evaluates an expression leaves the store and the
table as they were. -/
theorem followsRun_expr (agrees : store.Agrees m) (e : Expr) {pass : Pass}
    (table : pass.table = ofFunction label m)
    (report : pass.diagnostics = (e.check (ofFunction label m)).2) :
    FollowsRun label pass (do let _ ← e.eval? store; return store) := by
  cases computes : e.eval? store with
  | none =>
      refine .stuck ?_
      rw [report]
      exact Expr.check_of_stuck agrees computes
  | some d =>
      refine .goes_on ?_ table agrees
      rw [report, Expr.check_of_eval? agrees computes]
      exact freeOf_nil

theorem followsRun_stmt (function : String) (agrees : store.Agrees m) (s : Stmt) :
    FollowsRun label (checkStmt function (ofFunction label m) s) (s.run? store) := by
  cases s with
  | declaration type vars span => exact .each (followsRun_var type) agrees vars
  | assignment target value span => exact followsRun_assignment agrees target value span
  | ret value span =>
      cases value with
      | none => exact .goes_on freeOf_nil rfl agrees
      | some value => exact followsRun_expr agrees value rfl rfl
  | expr e span => exact followsRun_expr agrees e rfl rfl

end Steps

/-! ### Programs -/

/-- The check of a program follows its run. -/
theorem followsRun_program (p : Program) :
    FollowsRun (functionLabel p.function.name) p.function.pass p.run? := by
  have params : FollowsRun (functionLabel p.function.name) p.function.paramsPass
      (p.function.params.foldlM Param.run? .empty) :=
    .each followsRun_param Store.agrees_empty p.function.params
  exact params.andThen fun agrees =>
    .each (followsRun_stmt p.function.name) agrees p.function.body

/-- **The check is adequate.** A program runs to its end exactly if the check
reports nothing of the `stuckKinds`. After such a run the one child of the
global scope is the scope of the function, and it has a symbol for exactly the
names in the store: with the declared type of the cell, initialized if the cell
is not unset, and with the integer or truth value that the cell holds. -/
theorem analyze_adequate (p : Program) :
    (p.run?.isSome ↔ FreeOf stuckKinds (analyze p).diagnostics) ∧
      ∀ store ∈ p.run?, ∃ id scope, (analyze p).table.global.children = [id] ∧
        (analyze p).table.scope? id = some scope ∧
        ∀ name, (scope.symbols.get? name).map Symbol.knowledge =
          (store name).map Cell.knowledge := by
  have follows := followsRun_program p
  constructor
  · have closing : FreeOf stuckKinds (checkResult p.function) :=
      freeOf_checkResult (by simp [stuckKinds]) p.function
    rw [analyze_diagnostics, freeOf_append, and_iff_left closing, follows.free_iff,
      Option.isSome_iff_exists]
  · intro store ran
    obtain ⟨m, table, agrees⟩ := follows.related ran
    rw [analyze_table table]
    exact ⟨1, _, rfl, rfl, agrees⟩

end Scopewise
