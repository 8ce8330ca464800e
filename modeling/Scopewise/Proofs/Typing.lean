/-
Well-typed programs.

The rules here say when a program is well typed, without a table and without
diagnostics. A context gives the types of the declared names. `HasType` types
an expression, `VarsTyped`, `StmtTyped` and `BodyTyped` take a context to the
one behind the declarations, and `Program.WellTyped` asks in addition that no
name is declared twice.

The check accepts exactly the well-typed programs
(`analyze_accepts_iff_wellTyped`). An error can hide nothing: where the check
skips a part of the program or goes on with the type `error`, it has reported.
-/

import Scopewise.Proofs.Simulation

namespace Scopewise

open Table Diagnostics

/-! ### The rules -/

/-- The types of the declared names. -/
abbrev Context := String → Option TypeName

namespace Context

/-- Nothing is declared. -/
def empty : Context := fun _ => none

/-- Declares a name. -/
def extend (Γ : Context) (name : String) (type : TypeName) : Context :=
  fun other => if name = other then some type else Γ other

/-- The context of the body of a function. -/
def ofParams (params : List Param) : Context :=
  params.foldl (fun Γ p => Γ.extend p.name p.type) empty

end Context

/-- The types of expressions. Only integers can be computed with. -/
inductive HasType (Γ : Context) : Expr → TypeName → Prop where
  | number {value : Int64} {span : Span} : HasType Γ (.number value span) .int
  | boolean {value : Bool} {span : Span} : HasType Γ (.boolean value span) .bool
  | var {name : String} {span : Span} {type : TypeName} :
      Γ name = some type → HasType Γ (.var name span) type
  | binary {left right : Expr} {op : Operator} {span : Span} :
      HasType Γ left .int → HasType Γ right .int → HasType Γ (.binary left op right span) .int

/-- The variables of a declaration group. An initial value has the declared
type in the context before its variable. -/
inductive VarsTyped (type : TypeName) : Context → List VarDecl → Context → Prop where
  | nil {Γ : Context} : VarsTyped type Γ [] Γ
  | cons {Γ Δ : Context} {v : VarDecl} {rest : List VarDecl} :
      (∀ init ∈ v.init, HasType Γ init type) →
      VarsTyped type (Γ.extend v.name type) rest Δ → VarsTyped type Γ (v :: rest) Δ

/-- Statements. What is assigned has the type of its target; what is returned or
dropped has some type. -/
inductive StmtTyped : Context → Stmt → Context → Prop where
  | declaration {Γ Δ : Context} {type : TypeName} {vars : List VarDecl} {span : Span} :
      VarsTyped type Γ vars Δ → StmtTyped Γ (.declaration type vars span) Δ
  | assignment {Γ : Context} {target : String} {value : Expr} {type : TypeName} {span : Span} :
      Γ target = some type → HasType Γ value type → StmtTyped Γ (.assignment target value span) Γ
  | ret {Γ : Context} {span : Span} : StmtTyped Γ (.ret none span) Γ
  | retValue {Γ : Context} {value : Expr} {type : TypeName} {span : Span} :
      HasType Γ value type → StmtTyped Γ (.ret (some value) span) Γ
  | expr {Γ : Context} {e : Expr} {type : TypeName} {span : Span} :
      HasType Γ e type → StmtTyped Γ (.expr e span) Γ

/-- Statements in a row. -/
inductive BodyTyped : Context → List Stmt → Context → Prop where
  | nil {Γ : Context} : BodyTyped Γ [] Γ
  | cons {Γ middle Δ : Context} {s : Stmt} {rest : List Stmt} :
      StmtTyped Γ s middle → BodyTyped middle rest Δ → BodyTyped Γ (s :: rest) Δ

/-- The names that a statement declares. -/
def Stmt.declaredNames : Stmt → List String
  | .declaration _ vars _ => vars.map (·.name)
  | _ => []

/-- The names of the parameters and of all variables, each as often as it is
declared. -/
def FunctionDef.declaredNames (f : FunctionDef) : List String :=
  f.params.map (·.name) ++ f.body.flatMap Stmt.declaredNames

/-- A program whose names are all different and whose body is typed under its
parameters. -/
structure Program.WellTyped (p : Program) : Prop where
  distinct : p.function.declaredNames.Nodup
  typed : ∃ Γ, BodyTyped (.ofParams p.function.params) p.function.body Γ

/-! ### New names -/

namespace Context

variable {Γ Δ : Context}

theorem extend_eq_none_iff {name other : String} {type : TypeName} :
    Γ.extend name type other = none ↔ Γ other = none ∧ other ≠ name := by
  unfold extend
  split <;> simp_all [eq_comm]

/-- The names are all different and none of them is declared. -/
def Fresh (Γ : Context) (names : List String) : Prop :=
  names.Nodup ∧ ∀ name ∈ names, Γ name = none

theorem fresh_nil : Γ.Fresh [] := ⟨.nil, nofun⟩

/-- Of names in two parts, the second part has to be new behind the first. -/
theorem fresh_append {xs ys : List String}
    (declared : ∀ name, Δ name = none ↔ Γ name = none ∧ name ∉ xs) :
    Γ.Fresh (xs ++ ys) ↔ Γ.Fresh xs ∧ Δ.Fresh ys := by
  simp only [Fresh, List.nodup_append, List.mem_append, declared]
  constructor
  · rintro ⟨⟨nodupXs, nodupYs, apart⟩, new⟩
    refine ⟨⟨nodupXs, fun name h => new name (.inl h)⟩, nodupYs, fun name h => ?_⟩
    exact ⟨new name (.inr h), fun h' => apart name h' name h rfl⟩
  · rintro ⟨⟨nodupXs, newXs⟩, nodupYs, newYs⟩
    refine ⟨⟨nodupXs, nodupYs, ?_⟩, ?_⟩
    · rintro x hx y hy rfl
      exact (newYs x hy).2 hx
    · rintro name (h | h)
      · exact newXs name h
      · exact (newYs name h).1

theorem fresh_cons (type : TypeName) {name : String} {names : List String} :
    Γ.Fresh (name :: names) ↔ Γ name = none ∧ (Γ.extend name type).Fresh names := by
  have parts : Γ.Fresh ([name] ++ names) ↔ Γ.Fresh [name] ∧ (Γ.extend name type).Fresh names :=
    fresh_append (by simp [extend_eq_none_iff])
  simpa [Fresh] using parts

end Context

theorem VarsTyped.eq_none_iff {type : TypeName} {Γ Δ : Context} {vars : List VarDecl}
    (typed : VarsTyped type Γ vars Δ) {name : String} :
    Δ name = none ↔ Γ name = none ∧ name ∉ vars.map (·.name) := by
  induction typed with
  | nil => simp
  | cons _ _ ih => simp [ih, Context.extend_eq_none_iff, and_assoc]

theorem StmtTyped.eq_none_iff {Γ Δ : Context} {s : Stmt} (typed : StmtTyped Γ s Δ)
    {name : String} : Δ name = none ↔ Γ name = none ∧ name ∉ s.declaredNames := by
  cases typed with
  | declaration typed => exact typed.eq_none_iff
  | assignment | ret | retValue | expr => simp [Stmt.declaredNames]

/-! ### Expressions -/

/-- The kinds of diagnostic that tell of a program that is not well typed. -/
def typingKinds : List DiagnosticKind := [.structuralDuplicate, .unknownIdentifier, .typeMismatch]

/-- The symbols have the names and the types of the context. -/
def Context.Types (Γ : Context) (m : NameMap Symbol) : Prop :=
  ∀ name, (m.get? name).map (·.type) = (Γ name).map Ty.ofTypeName

namespace Context.Types

variable {Γ : Context} {m : NameMap Symbol}

theorem get?_eq_none_iff (types : Γ.Types m) {name : String} :
    m.get? name = none ↔ Γ name = none := by
  rw [← Option.map_eq_none_iff, types name, Option.map_eq_none_iff]

theorem get?_eq_some (types : Γ.Types m) {name : String} {type : TypeName}
    (declared : Γ name = some type) :
    ∃ symbol, m.get? name = some symbol ∧ symbol.type = .ofTypeName type := by
  have typed := types name
  rw [declared] at typed
  exact Option.map_eq_some_iff.mp typed

theorem insert (types : Γ.Types m) {name : String} {type : TypeName} {symbol : Symbol}
    (typed : symbol.type = .ofTypeName type) :
    (Γ.extend name type).Types (m.insert name symbol) := by
  intro other
  rw [NameMap.get?_insert, Context.extend]
  split
  · simp [typed]
  · exact types other

/-- Storing a value changes no type. -/
theorem modify_store (types : Γ.Types m) (name : String) (value : Option Constant) :
    Γ.Types (m.modify name (·.store value)) := by
  intro other
  rw [NameMap.get?_modify, ← types other]
  split
  · rw [Option.map_map]
    rfl
  · rfl

end Context.Types

theorem Context.types_empty : Context.empty.Types .empty := fun _ => rfl

section Expressions

variable {label : String} {Γ : Context} {m : NameMap Symbol}

/-- The check finds the type of a typed expression and reports nothing. -/
theorem HasType.check (types : Γ.Types m) {e : Expr} {type : TypeName} (typed : HasType Γ e type) :
    (e.check (ofFunction label m)).1.type = .ofTypeName type ∧
      FreeOf typingKinds (e.check (ofFunction label m)).2 := by
  induction typed with
  | number => exact ⟨rfl, freeOf_nil⟩
  | boolean => exact ⟨rfl, freeOf_nil⟩
  | var declared =>
      obtain ⟨symbol, found, hasType⟩ := types.get?_eq_some declared
      simp only [Expr.check, checkName, lookup?_ofFunction, found]
      refine ⟨hasType, ?_⟩
      split <;> simp [typingKinds]
  | binary _ _ ihLeft ihRight =>
      simp only [Expr.check, freeOf_append, ihLeft.1, ihRight.1]
      exact ⟨rfl, ⟨⟨ihLeft.2, ihRight.2⟩, freeOf_nil⟩, binaryValue_freeOf (by decide) _ _ _ _⟩

/-- An expression about which nothing is reported has a type. -/
theorem hasType_of_freeOf (types : Γ.Types m) {e : Expr}
    (free : FreeOf typingKinds (e.check (ofFunction label m)).2) : ∃ type, HasType Γ e type := by
  induction e with
  | number value span => exact ⟨.int, .number⟩
  | boolean value span => exact ⟨.bool, .boolean⟩
  | var name span =>
      cases declared : Γ name with
      | some type => exact ⟨type, .var declared⟩
      | none =>
          have unknown := types.get?_eq_none_iff.mpr declared
          simp [Expr.check, checkName, unknown, typingKinds] at free
  | binary left op right span ihLeft ihRight =>
      simp only [Expr.check, freeOf_append] at free
      obtain ⟨⟨⟨leftFree, rightFree⟩, operands⟩, -⟩ := free
      obtain ⟨leftType, leftTyped⟩ := ihLeft leftFree
      obtain ⟨rightType, rightTyped⟩ := ihRight rightFree
      rw [(leftTyped.check types).1, (rightTyped.check types).1,
        freeOf_binaryType (by simp [typingKinds])] at operands
      have leftInt : leftType = .int := Ty.ofTypeName_injective operands.1
      have rightInt : rightType = .int := Ty.ofTypeName_injective operands.2
      subst leftInt
      subst rightInt
      exact ⟨.int, .binary leftTyped rightTyped⟩

/-- Nothing is reported about storing an expression exactly if it has the type
of the variable. -/
theorem freeOf_store_iff (types : Γ.Types m) {e : Expr} {type : TypeName} {name : String}
    {span : Span} :
    FreeOf typingKinds ((e.check (ofFunction label m)).2 ++
        checkStore (.ofTypeName type) (e.check (ofFunction label m)).1.type name span) ↔
      HasType Γ e type := by
  have counted : .typeMismatch ∈ typingKinds := by simp [typingKinds]
  rw [freeOf_append]
  constructor
  · rintro ⟨checked, stored⟩
    obtain ⟨found, typed⟩ := hasType_of_freeOf types checked
    rw [(typed.check types).1, freeOf_checkStore_ofTypeName counted] at stored
    exact stored ▸ typed
  · intro typed
    refine ⟨(typed.check types).2, ?_⟩
    rw [(typed.check types).1]
    exact (freeOf_checkStore_ofTypeName counted).mpr rfl

end Expressions

/-! ### Declarations and statements

The check finds a repeated name where it is declared again. So the steps below
ask for a new name on the way, and the lemmas on `Steps` gather these conditions
into the one on all names. -/

/-- A parameter declares a new name. -/
def ParamStep (Γ : Context) (p : Param) (Δ : Context) : Prop :=
  Γ p.name = none ∧ Δ = Γ.extend p.name p.type

/-- A variable declares a new name, and its initial value is typed. -/
def VarStep (type : TypeName) (Γ : Context) (v : VarDecl) (Δ : Context) : Prop :=
  Γ v.name = none ∧ (∀ init ∈ v.init, HasType Γ init type) ∧ Δ = Γ.extend v.name type

/-- A statement is typed and declares new names. -/
def StmtStep (Γ : Context) (s : Stmt) (Δ : Context) : Prop :=
  StmtTyped Γ s Δ ∧ Γ.Fresh s.declaredNames

theorem steps_param_iff {Γ Δ : Context} {params : List Param} :
    Steps ParamStep Γ params Δ ↔
      Δ = params.foldl (fun Γ p => Γ.extend p.name p.type) Γ ∧ Γ.Fresh (params.map (·.name)) := by
  induction params generalizing Γ with
  | nil => simp [steps_nil_iff, Context.fresh_nil]
  | cons p rest ih =>
      simp only [steps_cons_iff, ParamStep, ih, List.foldl_cons, List.map_cons]
      rw [Context.fresh_cons p.type]
      constructor
      · rintro ⟨_, ⟨new, rfl⟩, final, others⟩
        exact ⟨final, new, others⟩
      · rintro ⟨final, new, others⟩
        exact ⟨_, ⟨new, rfl⟩, final, others⟩

theorem steps_var_iff {type : TypeName} {Γ Δ : Context} {vars : List VarDecl} :
    Steps (VarStep type) Γ vars Δ ↔ VarsTyped type Γ vars Δ ∧ Γ.Fresh (vars.map (·.name)) := by
  induction vars generalizing Γ with
  | nil =>
      rw [steps_nil_iff]
      constructor
      · rintro rfl
        exact ⟨.nil, Context.fresh_nil⟩
      · rintro ⟨⟨⟩, -⟩
        rfl
  | cons v rest ih =>
      simp only [steps_cons_iff, VarStep, ih, List.map_cons]
      rw [Context.fresh_cons type]
      constructor
      · rintro ⟨_, ⟨new, initial, rfl⟩, typed, others⟩
        exact ⟨.cons initial typed, new, others⟩
      · rintro ⟨_ | ⟨initial, typed⟩, new, others⟩
        exact ⟨_, ⟨new, initial, rfl⟩, typed, others⟩

theorem steps_stmt_iff {Γ Δ : Context} {body : List Stmt} :
    Steps StmtStep Γ body Δ ↔
      BodyTyped Γ body Δ ∧ Γ.Fresh (body.flatMap Stmt.declaredNames) := by
  induction body generalizing Γ with
  | nil =>
      rw [steps_nil_iff]
      constructor
      · rintro rfl
        exact ⟨.nil, Context.fresh_nil⟩
      · rintro ⟨⟨⟩, -⟩
        rfl
  | cons s rest ih =>
      simp only [steps_cons_iff, StmtStep, ih, List.flatMap_cons]
      constructor
      · rintro ⟨middle, ⟨typed, new⟩, others, newOthers⟩
        exact ⟨.cons typed others,
          (Context.fresh_append fun _ => typed.eq_none_iff).mpr ⟨new, newOthers⟩⟩
      · rintro ⟨_ | ⟨typed, others⟩, new⟩
        obtain ⟨new, newOthers⟩ := (Context.fresh_append fun _ => typed.eq_none_iff).mp new
        exact ⟨_, ⟨typed, new⟩, others, newOthers⟩

section Steps

variable {label : String} {Γ : Context} {m : NameMap Symbol}

theorem follows_paramStep (types : Γ.Types m) (p : Param) :
    (checkParam (ofFunction label m) p).Follows typingKinds label Context.Types
      (ParamStep Γ p) := by
  cases found : m.get? p.name with
  | some existing =>
      rw [checkParam_duplicate found]
      refine .of_stuck (by simp [typingKinds]) ?_
      rintro Δ ⟨new, -⟩
      rw [types.get?_eq_none_iff.mpr new] at found
      cases found
  | none =>
      rw [checkParam_fresh found]
      have new := types.get?_eq_none_iff.mp found
      exact .of_result freeOf_nil rfl (fun _ => and_iff_right new) (types.insert rfl)

theorem follows_varStep (type : TypeName) (types : Γ.Types m) (v : VarDecl) :
    (checkVar (.ofTypeName type) (ofFunction label m) v).Follows typingKinds label Context.Types
      (VarStep type Γ v) := by
  cases found : m.get? v.name with
  | some existing =>
      rw [checkVar_duplicate found]
      refine .of_stuck (by simp [typingKinds]) ?_
      rintro Δ ⟨new, -⟩
      rw [types.get?_eq_none_iff.mpr new] at found
      cases found
  | none =>
      have new := types.get?_eq_none_iff.mp found
      cases initial : v.init with
      | none =>
          rw [checkVar_plain found initial]
          refine .of_result (by simp [typingKinds]) rfl (fun Δ => ?_) (types.insert rfl)
          simp [VarStep, new, initial]
      | some init =>
          rw [checkVar_initialized found initial rfl]
          by_cases typed : HasType Γ init type
          · refine .of_result ((freeOf_store_iff types).mpr typed) rfl (fun Δ => ?_)
              (types.insert rfl)
            simp [VarStep, new, initial, typed]
          · refine .of_stuck (fun free => typed ((freeOf_store_iff types).mp free)) ?_
            rintro Δ ⟨-, typed', -⟩
            exact typed (typed' init initial)

theorem follows_assignmentStep (types : Γ.Types m) (target : String) (value : Expr) (span : Span) :
    (checkAssignment (ofFunction label m) target value span).Follows typingKinds label Context.Types
      (StmtStep Γ (.assignment target value span)) := by
  cases declared : Γ target with
  | none =>
      rw [checkAssignment_unknown (types.get?_eq_none_iff.mpr declared)]
      refine .of_stuck (by simp [typingKinds]) ?_
      rintro Δ ⟨⟨⟩, -⟩
      simp_all
  | some type =>
      obtain ⟨symbol, found, hasType⟩ := types.get?_eq_some declared
      rw [checkAssignment_declared found rfl, hasType]
      by_cases typed : HasType Γ value type
      · refine .of_result ((freeOf_store_iff types).mpr typed) rfl (fun Δ => ?_)
          (types.modify_store target _)
        constructor
        · rintro ⟨⟨⟩, -⟩
          rfl
        · rintro rfl
          exact ⟨.assignment declared typed, Context.fresh_nil⟩
      · refine .of_stuck (fun free => typed ((freeOf_store_iff types).mp free)) ?_
        rintro Δ ⟨⟨⟩, -⟩
        simp_all

/-- A statement that only looks at an expression is typed if that has a type. -/
theorem follows_exprStep (types : Γ.Types m) {pass : Pass} {s : Stmt} {e : Expr}
    (table : pass.table = ofFunction label m)
    (report : pass.diagnostics = (e.check (ofFunction label m)).2)
    (rule : ∀ Δ, StmtStep Γ s Δ ↔ (∃ type, HasType Γ e type) ∧ Δ = Γ) :
    pass.Follows typingKinds label Context.Types (StmtStep Γ s) := by
  by_cases typed : ∃ type, HasType Γ e type
  · obtain ⟨type, typed'⟩ := typed
    refine .of_result ?_ table (fun Δ => ?_) types
    · rw [report]
      exact (typed'.check types).2
    · rw [rule]
      exact and_iff_right ⟨type, typed'⟩
  · refine .of_stuck ?_ fun Δ step => typed ((rule Δ).mp step).1
    rw [report]
    exact fun free => typed (hasType_of_freeOf types free)

theorem follows_stmtStep (function : String) (types : Γ.Types m) (s : Stmt) :
    (checkStmt function (ofFunction label m) s).Follows typingKinds label Context.Types
      (StmtStep Γ s) := by
  cases s with
  | declaration type vars span =>
      have follows : (Pass.each (checkVar (.ofTypeName type)) (ofFunction label m) vars).Follows
          typingKinds label Context.Types (Steps (VarStep type) Γ vars) :=
        .each (follows_varStep type) types vars
      refine follows.congr fun Δ => ?_
      rw [steps_var_iff]
      constructor
      · rintro ⟨⟨typed⟩, new⟩
        exact ⟨typed, new⟩
      · rintro ⟨typed, new⟩
        exact ⟨.declaration typed, new⟩
  | assignment target value span => exact follows_assignmentStep types target value span
  | ret value span =>
      cases value with
      | none =>
          refine .of_result freeOf_nil rfl (fun Δ => ?_) types
          constructor
          · rintro ⟨⟨⟩, -⟩
            rfl
          · rintro rfl
            exact ⟨.ret, Context.fresh_nil⟩
      | some value =>
          refine follows_exprStep types rfl rfl fun Δ => ?_
          constructor
          · rintro ⟨typed, -⟩
            cases typed with
            | retValue typed => exact ⟨⟨_, typed⟩, rfl⟩
          · rintro ⟨⟨type, typed⟩, rfl⟩
            exact ⟨.retValue typed, Context.fresh_nil⟩
  | expr e span =>
      refine follows_exprStep types rfl rfl fun Δ => ?_
      constructor
      · rintro ⟨typed, -⟩
        cases typed with
        | expr typed => exact ⟨⟨_, typed⟩, rfl⟩
      · rintro ⟨⟨type, typed⟩, rfl⟩
        exact ⟨.expr typed, Context.fresh_nil⟩

end Steps

/-! ### Programs -/

theorem Context.foldl_extend_eq_none_iff {params : List Param} {Γ : Context} {name : String} :
    params.foldl (fun Γ p => Γ.extend p.name p.type) Γ name = none ↔
      Γ name = none ∧ name ∉ params.map (·.name) := by
  induction params generalizing Γ with
  | nil => simp
  | cons p rest ih => simp [ih, Context.extend_eq_none_iff, and_assoc]

theorem Context.fresh_empty_iff {names : List String} : empty.Fresh names ↔ names.Nodup :=
  and_iff_left fun _ _ => rfl

/-- A function can be gone through step by step exactly if all its names are
different and its body is typed. -/
theorem steps_function_iff {f : FunctionDef} {Δ : Context} :
    (∃ Γ, Steps ParamStep .empty f.params Γ ∧ Steps StmtStep Γ f.body Δ) ↔
      f.declaredNames.Nodup ∧ BodyTyped (.ofParams f.params) f.body Δ := by
  rw [← Context.fresh_empty_iff, FunctionDef.declaredNames,
    Context.fresh_append fun _ => Context.foldl_extend_eq_none_iff]
  simp only [steps_param_iff, steps_stmt_iff]
  constructor
  · rintro ⟨_, ⟨rfl, newParams⟩, typed, new⟩
    exact ⟨⟨newParams, new⟩, typed⟩
  · rintro ⟨⟨newParams, new⟩, typed⟩
    exact ⟨_, ⟨rfl, newParams⟩, typed, new⟩

theorem freeOf_typingKinds_iff (p : Program) :
    FreeOf typingKinds (analyze p).diagnostics ↔ p.WellTyped := by
  have params : p.function.paramsPass.Follows typingKinds (functionLabel p.function.name)
      Context.Types (Steps ParamStep .empty p.function.params) :=
    .each follows_paramStep Context.types_empty p.function.params
  have follows : p.function.pass.Follows typingKinds (functionLabel p.function.name) Context.Types
      fun Δ => ∃ Γ, Steps ParamStep .empty p.function.params Γ ∧
        Steps StmtStep Γ p.function.body Δ :=
    params.andThen fun types => .each (follows_stmtStep p.function.name) types p.function.body
  rw [analyze_diagnostics, freeOf_append,
    and_iff_left (freeOf_checkResult (by simp [typingKinds]) p.function), follows.free_iff]
  simp only [steps_function_iff]
  constructor
  · rintro ⟨Δ, distinct, typed⟩
    exact ⟨distinct, Δ, typed⟩
  · rintro ⟨distinct, Δ, typed⟩
    exact ⟨Δ, distinct, typed⟩

/-- **The check accepts exactly the well-typed programs.** It reports no
repeated declaration, no unknown name and no type mismatch exactly for those.
So a program passes exactly if it is well typed, has a return statement unless
its result is `void`, and divides no constant by zero. -/
theorem analyze_accepts_iff_wellTyped (p : Program) :
    (FreeOf [.structuralDuplicate, .unknownIdentifier, .typeMismatch] (analyze p).diagnostics ↔
        p.WellTyped) ∧
      ((analyze p).hasErrors = false ↔
        p.WellTyped ∧
          (p.function.returnType = .void ∨ ∃ value span, .ret value span ∈ p.function.body) ∧
          FreeOf [.arithmeticFault] (analyze p).diagnostics) := by
  refine ⟨freeOf_typingKinds_iff p, ?_⟩
  rw [Analysis.hasErrors, hasErrors_eq_false_iff, ← freeOf_typingKinds_iff, ← hasReturn_iff,
    ← freeOf_missingReturn_iff]
  exact Iff.rfl

end Scopewise
