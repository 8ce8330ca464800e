/-
The names that a statement reads and writes.

`Stmt.reads` lists the variables in the expressions of a statement, and
`Stmt.writes` the names that it assigns or declares. A check changes the symbols
of the function under the written names only (`checkStmt_changesOnly`), so a
name that is written nowhere has no symbol in the end.
-/

import Scopewise.Proofs.FunctionTable

namespace Scopewise

open Table

/-! ### Reads and writes -/

/-- The variables of an expression, in source order. -/
def Expr.names : Expr → List String
  | .binary left _ right _ => left.names ++ right.names
  | .number .. | .boolean .. => []
  | .var name _ => [name]

/-- The variables of an expression that may be missing. -/
def Expr.optionalNames (e : Option Expr) : List String := (e.map Expr.names).getD []

/-- The names that a statement reads. -/
def Stmt.reads : Stmt → List String
  | .declaration _ vars _ => vars.flatMap fun v => Expr.optionalNames v.init
  | .assignment _ value _ => value.names
  | .ret value _ => Expr.optionalNames value
  | .expr e _ => e.names

/-- The names that a statement writes: the target of an assignment, or the
declared variables. -/
def Stmt.writes : Stmt → List String
  | .declaration _ vars _ => vars.map (·.name)
  | .assignment target _ _ => [target]
  | .ret .. | .expr .. => []

/-- The names that a function writes: its parameters, and what its statements
write. -/
def FunctionDef.writes (f : FunctionDef) : List String :=
  f.params.map (·.name) ++ f.body.flatMap Stmt.writes

/-! ### What a check leaves alone -/

/-- A pass that starts with the symbols `m` leaves the table of the function,
and changes the symbols at most under the given names. -/
def Pass.ChangesOnly (label : String) (m : NameMap Symbol) (names : List String)
    (pass : Pass) : Prop :=
  ∃ m', pass.table = ofFunction label m' ∧ ∀ x, x ∉ names → m'.get? x = m.get? x

namespace Pass.ChangesOnly

variable {label : String} {m : NameMap Symbol} {names : List String} {pass : Pass}

/-- A pass that leaves the symbols as they were changes nothing at all. -/
theorem of_same (same : pass.table = ofFunction label m) : pass.ChangesOnly label m names :=
  ⟨m, same, fun _ _ => rfl⟩

theorem of_insert {name : String} {symbol : Symbol} (named : name ∈ names)
    (inserted : pass.table = ofFunction label (m.insert name symbol)) :
    pass.ChangesOnly label m names := by
  refine ⟨_, inserted, ?_⟩
  intro x unnamed
  have other : name ≠ x := fun same => unnamed (same ▸ named)
  rw [NameMap.get?_insert, if_neg other]

theorem of_modify {name : String} {change : Symbol → Symbol} (named : name ∈ names)
    (modified : pass.table = ofFunction label (m.modify name change)) :
    pass.ChangesOnly label m names := by
  refine ⟨_, modified, ?_⟩
  intro x unnamed
  have other : name ≠ x := fun same => unnamed (same ▸ named)
  rw [NameMap.get?_modify, if_neg other]

theorem andThen {next : Table → Pass} (first : pass.ChangesOnly label m names)
    (second : ∀ m', (next (ofFunction label m')).ChangesOnly label m' names) :
    (pass.andThen next).ChangesOnly label m names := by
  obtain ⟨m', table, kept⟩ := first
  obtain ⟨last, table', kept'⟩ := second m'
  refine ⟨last, ?_, ?_⟩
  · rw [andThen_table, table, table']
  · intro x unnamed
    rw [kept' x unnamed, kept x unnamed]

/-- What no step of a pass over a list changes is left alone by the pass. -/
theorem each {α : Type} {step : Table → α → Pass} {xs : List α}
    (steps : ∀ m, ∀ a ∈ xs, (step (ofFunction label m) a).ChangesOnly label m names)
    (m : NameMap Symbol) :
    (Pass.each step (ofFunction label m) xs).ChangesOnly label m names := by
  induction xs generalizing m with
  | nil => exact of_same rfl
  | cons a rest ih =>
      refine (steps m a (by simp)).andThen ?_
      intro m'
      exact ih (fun m a mem => steps m a (by simp [mem])) m'

theorem mono {names' : List String} (changes : pass.ChangesOnly label m names)
    (sub : names ⊆ names') : pass.ChangesOnly label m names' := by
  obtain ⟨m', table, kept⟩ := changes
  exact ⟨m', table, fun x unnamed => kept x fun mem => unnamed (sub mem)⟩

end Pass.ChangesOnly

section Check

variable {label : String} {names : List String}

theorem checkParam_changesOnly (m : NameMap Symbol) {p : Param} (named : p.name ∈ names) :
    (checkParam (ofFunction label m) p).ChangesOnly label m names := by
  cases found : m.get? p.name with
  | some existing =>
      rw [checkParam_duplicate found]
      exact .of_same rfl
  | none =>
      rw [checkParam_fresh found]
      exact .of_insert named rfl

theorem checkVar_changesOnly (type : Ty) (m : NameMap Symbol) {v : VarDecl}
    (named : v.name ∈ names) : (checkVar type (ofFunction label m) v).ChangesOnly label m names := by
  cases found : m.get? v.name with
  | some existing =>
      rw [checkVar_duplicate found]
      exact .of_same rfl
  | none =>
      cases initial : v.init with
      | none =>
          rw [checkVar_plain found initial]
          exact .of_insert named rfl
      | some init =>
          rw [checkVar_initialized found initial rfl]
          exact .of_insert named rfl

/-- A statement changes the symbols under the names that it writes, and no
others. -/
theorem checkStmt_changesOnly (function : String) (m : NameMap Symbol) (s : Stmt) :
    (checkStmt function (ofFunction label m) s).ChangesOnly label m s.writes := by
  cases s with
  | declaration type vars span =>
      refine .each ?_ m
      intro m v mem
      exact checkVar_changesOnly _ m (List.mem_map_of_mem mem)
  | assignment target value span =>
      cases found : m.get? target with
      | none =>
          rw [checkStmt, checkAssignment_unknown found]
          exact .of_same rfl
      | some symbol =>
          rw [checkStmt, checkAssignment_declared found rfl]
          exact .of_modify (List.mem_singleton_self target) rfl
  | ret value span => cases value <;> exact .of_same rfl
  | expr e span => exact .of_same rfl

/-- A function leaves no symbol under a name that it does not write. -/
theorem FunctionDef.pass_changesOnly (f : FunctionDef) :
    f.pass.ChangesOnly (functionLabel f.name) .empty f.writes := by
  refine Pass.ChangesOnly.andThen (.each ?_ .empty) (.each ?_)
  · intro m p mem
    exact checkParam_changesOnly m (List.mem_append_left _ (List.mem_map_of_mem mem))
  · intro m s mem
    refine (checkStmt_changesOnly f.name m s).mono ?_
    intro x written
    exact List.mem_append_right _ (List.mem_flatMap_of_mem mem written)

end Check

/-- Every symbol that a check leaves is one of a name that the function
writes. -/
theorem analyze_names_written (p : Program) : ∀ scope ∈ (analyze p).table.scopes,
    ∀ x symbol, scope.symbols.get? x = some symbol → x ∈ p.function.writes := by
  obtain ⟨m, table, kept⟩ := p.function.pass_changesOnly
  rw [analyze_table table]
  intro scope mem x symbol found
  rcases List.mem_cons.mp mem with rfl | mem
  · cases found
  · cases List.mem_singleton.mp mem
    by_cases written : x ∈ p.function.writes
    · exact written
    · rw [show m.get? x = _ from kept x written] at found
      cases found

end Scopewise
