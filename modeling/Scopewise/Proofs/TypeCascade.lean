/-
Type errors of expressions.

An operation that is not typed has a leaf to blame: a truth value, or a variable
that is undeclared or of another type than `int`. Such a leaf spoils every
operation above it. Each of these gets the type `error` and is reported, the
operands before the operation; no other operation is (`Expr.check_type_cascade`).

The type `error` never comes about without a report. This is where the table
matters: variables have the types that were written for them, in every table
that a check can come to (`Table.Reached`).
-/

import Scopewise.Proofs.Reports

namespace Scopewise

open Diagnostics Table

/-! ### Leaves and operations -/

namespace Expr

/-- The leaves of an expression, from left to right. -/
def leaves : Expr → List Expr
  | .binary left _ right _ => left.leaves ++ right.leaves
  | e => [e]

/-- The binary nodes of an expression, each behind those of its operands. -/
def operations : Expr → List Expr
  | e@(.binary left _ right _) => left.operations ++ right.operations ++ [e]
  | _ => []

/-- A leaf that rules out arithmetic: a truth value, or a variable that is not
declared or not of type `int`. -/
def spoils (t : Table) : Expr → Bool
  | .boolean .. => true
  | .var name _ =>
      match t.type? name with
      | none => true
      | some type => type != .int
  | .number .. | .binary .. => false

/-- Some leaf of the expression rules out arithmetic. -/
def spoiled (t : Table) (e : Expr) : Bool := e.leaves.any (·.spoils t)

@[simp] theorem spoiled_binary (t : Table) (left : Expr) (op : Operator) (right : Expr)
    (span : Span) : (binary left op right span).spoiled t = (left.spoiled t || right.spoiled t) :=
  List.any_append

/-! ### Operations -/

/-- The expressions of type `int` are those without a spoiling leaf. -/
theorem check_type_eq_int_iff (t : Table) (e : Expr) :
    (e.check t).1.type = .int ↔ e.spoiled t = false := by
  induction e with
  | number value span => simp [check, spoiled, leaves, spoils]
  | boolean value span => simp [check, spoiled, leaves, spoils]
  | var name span =>
      simp only [check, checkName, spoiled, leaves, spoils, type?]
      cases found : t.lookup? name with
      | none => simp [found]
      | some symbol => simp [found]
  | binary left op right span ihLeft ihRight =>
      rw [spoiled_binary, Bool.or_eq_false_iff, ← ihLeft, ← ihRight]
      simp only [check]
      rcases binaryType_cases (left.check t).1.type (right.check t).1.type span with
        ⟨leftInt, rightInt, typed⟩ | ⟨rejected, e, typed⟩
      · rw [typed]
        simp [leftInt, rightInt]
      · simp [typed, rejected]

/-- The type of an operation and the report about it, from its leaves. -/
theorem binaryType_of_leaves (t : Table) (left : Expr) (op : Operator) (right : Expr)
    (span : Span) :
    (left.spoiled t = false ∧ right.spoiled t = false ∧
        binaryType (left.check t).1.type (right.check t).1.type span = (.int, [])) ∨
      ((binary left op right span).spoiled t = true ∧
        ∃ e, binaryType (left.check t).1.type (right.check t).1.type span =
          (.error, [Finding.badOperands e span])) := by
  rcases binaryType_cases (left.check t).1.type (right.check t).1.type span with
    ⟨leftInt, rightInt, typed⟩ | ⟨rejected, e, typed⟩
  · exact .inl ⟨(left.check_type_eq_int_iff t).mp leftInt,
      (right.check_type_eq_int_iff t).mp rightInt, typed⟩
  · refine .inr ⟨?_, e, typed⟩
    rw [check_type_eq_int_iff, check_type_eq_int_iff, ← Bool.or_eq_false_iff,
      ← spoiled_binary t left op right span, Bool.not_eq_false] at rejected
    exact rejected

/-- An operation has the type `error` if a leaf below it spoils it, and otherwise
the type `int`. -/
theorem check_type_binary (t : Table) (left : Expr) (op : Operator) (right : Expr) (span : Span) :
    ((binary left op right span).check t).1.type =
      if (binary left op right span).spoiled t then .error else .int := by
  simp only [check]
  rcases binaryType_of_leaves t left op right span with
    ⟨leftFine, rightFine, typed⟩ | ⟨spoiled, e, typed⟩
  · simp [typed, leftFine, rightFine]
  · rw [if_pos spoiled, typed]

/-- The spoiled operations are reported one by one, at their places. -/
theorem check_mismatches (t : Table) (e : Expr) :
    (ofKinds [.typeMismatch] (e.check t).2).map (·.span) =
      (e.operations.filter (·.spoiled t)).map fun node => some node.span := by
  induction e with
  | number value span => rfl
  | boolean value span => rfl
  | var name span =>
      simp only [check, operations]
      rw [ofKinds_eq_nil (checkName_freeOf (by decide) (by decide) t name span)]
      rfl
  | binary left op right span ihLeft ihRight =>
      have value (l r : Option Constant) :
          ofKinds [.typeMismatch] (binaryValue l op r span).2 = [] :=
        ofKinds_eq_nil (binaryValue_freeOf (by decide) l op r span)
      simp only [check, operations, ofKinds_append, value, List.append_nil, List.map_append,
        List.filter_append, ihLeft, ihRight]
      congr 1
      rcases binaryType_of_leaves t left op right span with
        ⟨leftFine, rightFine, typed⟩ | ⟨spoiled, e, typed⟩
      · simp [typed, leftFine, rightFine]
      · simp only [typed, List.filter_cons, spoiled, if_true, List.filter_nil]
        rfl

end Expr

/-! ### Tables of a check -/

/-- The tables that the check of a function comes to inside its scope. Nothing
but a parameter, a variable or an assignment changes the table. -/
inductive Table.Inside (function : String) : Table → Prop where
  | entered : Inside function (Table.new.enter (functionLabel function))
  | param {t : Table} (p : Param) : Inside function t → Inside function (checkParam t p).table
  | var {t : Table} (type : TypeName) (v : VarDecl) :
      Inside function t → Inside function (checkVar (.ofTypeName type) t v).table
  | assignment {t : Table} (target : String) (value : Expr) (span : Span) :
      Inside function t → Inside function (checkAssignment t target value span).table

/-- The tables that a check comes to: before a function, inside it and behind
it. -/
inductive Table.Reached : Table → Prop where
  | new : Reached .new
  | inside {function : String} {t : Table} : t.Inside function → Reached t
  | left {function : String} {t : Table} : t.Inside function → Reached (leaveFunction t).table

namespace Table.Inside

variable {function : String} {t : Table}

theorem each {α : Type} {step : Table → α → Pass}
    (steps : ∀ {t : Table} (a : α), t.Inside function → (step t a).table.Inside function)
    (inside : t.Inside function) (xs : List α) : (Pass.each step t xs).table.Inside function := by
  induction xs generalizing t with
  | nil => exact inside
  | cons a rest ih => exact ih (steps a inside)

theorem stmt (inside : t.Inside function) (s : Stmt) :
    (checkStmt function t s).table.Inside function := by
  cases s with
  | declaration type vars span => exact inside.each (fun v inside => inside.var type v) vars
  | assignment target value span => exact inside.assignment target value span
  | ret value span => cases value <;> exact inside
  | expr e span => exact inside

end Table.Inside

/-- The check of a function stays inside its scope up to the end of its body. -/
theorem FunctionDef.pass_inside (f : FunctionDef) : f.pass.table.Inside f.name := by
  have params : f.paramsPass.table.Inside f.name :=
    Inside.entered.each (fun p inside => inside.param p) f.params
  exact params.each (fun s inside => inside.stmt s) f.body

/-- The final table of a check is one that a check comes to. -/
theorem analyze_table_reached (p : Program) : (analyze p).table.Reached :=
  .left p.function.pass_inside

/-- No symbol has the type `error`. -/
def Written (m : NameMap Symbol) : Prop := m.All fun _ s => s.type ≠ .error

namespace Written

variable {label : String} {m : NameMap Symbol}

theorem param (written : Written m) (p : Param) :
    ∃ m', (checkParam (ofFunction label m) p).table = ofFunction label m' ∧ Written m' := by
  cases found : m.get? p.name with
  | some existing => exact ⟨m, by rw [checkParam_duplicate found], written⟩
  | none =>
      rw [checkParam_fresh found]
      exact ⟨_, rfl, written.insert (Ty.ofTypeName_ne_error p.type)⟩

theorem var (written : Written m) (type : TypeName) (v : VarDecl) :
    ∃ m', (checkVar (.ofTypeName type) (ofFunction label m) v).table = ofFunction label m' ∧
      Written m' := by
  cases found : m.get? v.name with
  | some existing => exact ⟨m, by rw [checkVar_duplicate found], written⟩
  | none =>
      have declared := Ty.ofTypeName_ne_error type
      cases initial : v.init with
      | none =>
          rw [checkVar_plain found initial]
          exact ⟨_, rfl, written.insert declared⟩
      | some init =>
          rw [checkVar_initialized found initial rfl]
          exact ⟨_, rfl, written.insert declared⟩

theorem assignment (written : Written m) (target : String) (value : Expr) (span : Span) :
    ∃ m', (checkAssignment (ofFunction label m) target value span).table = ofFunction label m' ∧
      Written m' := by
  cases found : m.get? target with
  | none => exact ⟨m, by rw [checkAssignment_unknown found], written⟩
  | some symbol =>
      rw [checkAssignment_declared found rfl]
      exact ⟨_, rfl, written.modify fun s held => written target s held⟩

end Written

/-- Inside a function all symbols have written types. -/
theorem Table.Inside.written {function : String} {t : Table} (inside : t.Inside function) :
    ∃ m, t = ofFunction (functionLabel function) m ∧ Written m := by
  induction inside with
  | entered => exact ⟨.empty, rfl, NameMap.all_empty _⟩
  | param p _ ih =>
      obtain ⟨m, rfl, written⟩ := ih
      exact written.param p
  | var type v _ ih =>
      obtain ⟨m, rfl, written⟩ := ih
      exact written.var type v
  | assignment target value span _ ih =>
      obtain ⟨m, rfl, written⟩ := ih
      exact written.assignment target value span

/-- A name that is found in a table that a check comes to has a written type:
outside of functions nothing is found at all. -/
theorem Table.Reached.type_ne_error {t : Table} (reached : t.Reached) {name : String}
    {symbol : Symbol} (found : t.lookup? name = some symbol) : symbol.type ≠ .error := by
  cases reached with
  | new => cases found
  | inside inside =>
      obtain ⟨m, rfl, written⟩ := inside.written
      rw [lookup?_ofFunction] at found
      exact written name symbol found
  | left inside =>
      obtain ⟨m, rfl, -⟩ := inside.written
      rw [leaveFunction_ofFunction] at found
      cases found

/-! ### The cascade -/

/-- The type `error` and a report about types or unknown names come together. -/
theorem Expr.freeOf_check_iff {t : Table} (reached : t.Reached) (e : Expr) :
    FreeOf [.unknownIdentifier, .typeMismatch] (e.check t).2 ↔ (e.check t).1.type ≠ .error := by
  induction e with
  | number value span => simp [check]
  | boolean value span => simp [check]
  | var name span =>
      simp only [check, checkName]
      cases found : t.lookup? name with
      | none => simp
      | some symbol =>
          have written := reached.type_ne_error found
          simp only [ne_eq, written, not_false_iff, iff_true]
          split <;> simp
  | binary left op right span ihLeft ihRight =>
      simp only [check, freeOf_append, ihLeft, ihRight]
      have value (l r : Option Constant) :
          FreeOf [.unknownIdentifier, .typeMismatch] (binaryValue l op r span).2 :=
        binaryValue_freeOf (by decide) l op r span
      rcases binaryType_cases (left.check t).1.type (right.check t).1.type span with
        ⟨leftInt, rightInt, typed⟩ | ⟨-, e, typed⟩
      · rw [typed]
        simp [leftInt, rightInt, value]
      · simp [typed]

/-- How the type errors of an expression come about. -/
structure Expr.Cascades (t : Table) (e : Expr) : Prop where
  /-- An operation is reported once if a leaf below it spoils it, and otherwise
  not; the operands come before the operation. -/
  reported : (ofKinds [.typeMismatch] (e.check t).2).map (·.span) =
    (e.operations.filter (·.spoiled t)).map fun node => some node.span
  /-- The spoiled operations are the ones without a type. -/
  operation : ∀ left op right span, e = .binary left op right span →
    (e.check t).1.type = if e.spoiled t then .error else .int
  /-- No error is kept to itself, and none is made up. -/
  error_iff : (e.check t).1.type = .error ↔
    ∃ d ∈ (e.check t).2, d.kind = .unknownIdentifier ∨ d.kind = .typeMismatch

/-- **Type errors cascade.** In every table that a check comes to, the operations
above a leaf that rules out arithmetic are the ones that get the type `error`,
and each of them is reported once, the operands first; and an expression has the
type `error` just if something was reported about its types or names. -/
theorem Expr.check_type_cascade {t : Table} (reached : t.Reached) (e : Expr) : e.Cascades t where
  reported := e.check_mismatches t
  operation := by
    rintro left op right span rfl
    exact check_type_binary t left op right span
  error_iff :=
    calc (e.check t).1.type = .error
      _ ↔ ¬ FreeOf [.unknownIdentifier, .typeMismatch] (e.check t).2 := by
          rw [e.freeOf_check_iff reached, ne_eq, Decidable.not_not]
      _ ↔ ∃ d ∈ (e.check t).2, d.kind ∈ [.unknownIdentifier, .typeMismatch] := not_freeOf_iff
      _ ↔ ∃ d ∈ (e.check t).2, d.kind = .unknownIdentifier ∨ d.kind = .typeMismatch := by simp

/-- A function with a parameter of each type. -/
def FunctionDef.eachType : FunctionDef where
  returnType := .void
  name := "f"
  params :=
    [{ type := .int, name := "n" }, { type := .bool, name := "b" }, { type := .void, name := "v" }]

/-- `(n + 1) * (b + b) - x`, with the operations on lines 1 to 4 in the order in
which they are computed. -/
def Expr.mixed : Expr :=
  .binary
    (.binary (.binary (.var "n" .unknown) .plus (.number 1 .unknown) (.point ⟨1, 0⟩)) .times
      (.binary (.var "b" .unknown) .plus (.var "b" .unknown) (.point ⟨2, 0⟩)) (.point ⟨3, 0⟩))
    .minus (.var "x" .unknown) (.point ⟨4, 0⟩)

/-- Two truth values do not add up, and what is above them is reported as well. -/
theorem Expr.check_type_cascade_mixed :
    FunctionDef.eachType.pass.table.Reached ∧
      (ofKinds [.typeMismatch] (mixed.check FunctionDef.eachType.pass.table).2).map (·.span) =
        [some (.point ⟨2, 0⟩), some (.point ⟨3, 0⟩), some (.point ⟨4, 0⟩)] ∧
      mixed.Cascades FunctionDef.eachType.pass.table := by
  have reached : FunctionDef.eachType.pass.table.Reached :=
    .inside FunctionDef.eachType.pass_inside
  exact ⟨reached, by decide, check_type_cascade reached mixed⟩

end Scopewise
