/-
Uses of names.

A check has two complaints about the use of a name: it is not declared, or it is
read before anything was stored in it. Which of them it makes is a matter of
what stands before the use. The `Act`s of a function are its declarations and
assignments; a place in the function is known by the acts before it, in source
order. A name is `Declared` at a place if some act before it declares the name.
It is `Unset` if the first of those acts gives it no initial value and no act
since then assigns it.

`FunctionDef.nameReports` goes through a function and says, by the acts alone,
what is to be reported about its uses of names. A check reports just that
(`analyze_name_uses`). The invariant is `Heeds`: the symbols are those of the
declared names, and the ones not initialized are those of the unset names.
-/

import Scopewise.Proofs.Declarations

namespace Scopewise

open Diagnostics Table

/-! ### Acts -/

/-- What a part of a function does to a name, apart from reading it. -/
inductive Act where
  | declares (form : Form) (name : String)
  | assigns (target : String)
deriving DecidableEq

def Param.acts (p : Param) : List Act := [.declares .param p.name]

def VarDecl.acts (v : VarDecl) : List Act :=
  [.declares (if v.init.isSome then .initialized else .plain) v.name]

/-- The acts of a statement; those of a declaration group from left to right. -/
def Stmt.acts : Stmt → List Act
  | .declaration _ vars _ => vars.flatMap VarDecl.acts
  | .assignment target _ _ => [.assigns target]
  | .ret .. | .expr .. => []

/-- The act declares `x`, in whatever form. -/
def Act.Introduces (x : String) (a : Act) : Prop := ∃ form, a = .declares form x

instance (x : String) : (a : Act) → Decidable (a.Introduces x)
  | .declares _ y => decidable_of_iff (y = x) (by simp [Act.Introduces])
  | .assigns _ => isFalse (by simp [Act.Introduces])

/-- The name is declared behind the acts. -/
def Declared (acts : List Act) (x : String) : Prop := ∃ a ∈ acts, a.Introduces x

instance (acts : List Act) (x : String) : Decidable (Declared acts x) :=
  inferInstanceAs (Decidable (∃ a ∈ acts, a.Introduces x))

/-- The first declaration of the name has no initial value, and no assignment
behind it has the name as its target. -/
def Unset (acts : List Act) (x : String) : Prop :=
  ∃ before since, acts = before ++ .declares .plain x :: since ∧ ¬ Declared before x ∧
    .assigns x ∉ since

section Acts

variable {acts : List Act} {a : Act} {x : String}

@[simp] theorem not_declared_nil : ¬ Declared [] x := by
  simp [Declared]

theorem declared_cons : Declared (a :: acts) x ↔ a.Introduces x ∨ Declared acts x := by
  simp [Declared]

theorem declared_concat : Declared (acts ++ [a]) x ↔ Declared acts x ∨ a.Introduces x := by
  simp [Declared, or_and_right, exists_or]

@[simp] theorem not_unset_nil : ¬ Unset [] x := by
  simp [Unset]

theorem unset_cons :
    Unset (a :: acts) x ↔
      (a = .declares .plain x ∧ .assigns x ∉ acts) ∨ (¬ a.Introduces x ∧ Unset acts x) := by
  constructor
  · rintro ⟨before, since, split, first, unassigned⟩
    cases before with
    | nil =>
        cases split
        exact .inl ⟨rfl, unassigned⟩
    | cons b before =>
        cases split
        rw [declared_cons, not_or] at first
        exact .inr ⟨first.1, before, since, rfl, first.2, unassigned⟩
  · rintro (⟨rfl, unassigned⟩ | ⟨other, before, since, rfl, first, unassigned⟩)
    · exact ⟨[], acts, rfl, not_declared_nil, unassigned⟩
    · refine ⟨a :: before, since, rfl, ?_, unassigned⟩
      rw [declared_cons, not_or]
      exact ⟨other, first⟩

instance decidableUnset (x : String) : (acts : List Act) → Decidable (Unset acts x)
  | [] => isFalse not_unset_nil
  | _ :: acts =>
      have := decidableUnset x acts
      decidable_of_iff _ unset_cons.symm

/-- One more act: an assignment ends the time in which a name is unset, a first
declaration without an initial value begins it. -/
theorem unset_concat :
    Unset (acts ++ [a]) x ↔
      (Unset acts x ∧ a ≠ .assigns x) ∨ (¬ Declared acts x ∧ a = .declares .plain x) := by
  induction acts with
  | nil => simp [unset_cons]
  | cons b acts ih =>
      rw [List.cons_append, unset_cons, unset_cons, declared_cons, ih]
      -- Behind a declaration of `x` only assignments matter; before it nothing does.
      by_cases declares : b.Introduces x
      · simp [declares, and_assoc, eq_comm]
      · have other : b ≠ .declares .plain x := by
          rintro rfl
          exact declares ⟨_, rfl⟩
        simp [declares, other]

end Acts

/-! ### What there is to report -/

/-- The variables of an expression with their places, from left to right. -/
def Expr.uses : Expr → List (String × Span)
  | .binary left _ right _ => left.uses ++ right.uses
  | .number .. | .boolean .. => []
  | .var name span => [(name, span)]

/-- The report of a name that is not declared where it is used. -/
def undeclaredUse (x : String) (span : Span) : Diagnostic where
  kind := .unknownIdentifier
  message := "Variable '" ++ x ++ "' is not declared"
  span := some span

/-- The report of a name that is read while it is unset. -/
def unsetUse (x : String) (span : Span) : Diagnostic where
  kind := .uninitializedUse
  message := "Variable '" ++ x ++ "' is used before being initialized"
  span := some span

/-- What there is to report about reading `x` behind the acts. -/
def readReports (acts : List Act) (x : String) (span : Span) : List Diagnostic :=
  if ¬ Declared acts x then [undeclaredUse x span]
  else if Unset acts x then [unsetUse x span]
  else []

def Expr.nameReports (acts : List Act) (e : Expr) : List Diagnostic :=
  e.uses.flatMap fun (x, span) => readReports acts x span

/-- The reports about an expression that may be missing. -/
def Expr.optionalReports (acts : List Act) (e : Option Expr) : List Diagnostic :=
  (e.map (Expr.nameReports acts)).getD []

/-- The initial value of a variable counts unless the variable is declared
already. The variable itself is not declared in it. -/
def VarDecl.nameReports (acts : List Act) (v : VarDecl) : List Diagnostic :=
  if Declared acts v.name then [] else Expr.optionalReports acts v.init

/-- Each of `xs` with the acts before it, those of `earlier` and of the elements
on its left. -/
def withActs {α : Type} (acts : α → List Act) (earlier : List Act) :
    List α → List (List Act × α)
  | [] => []
  | a :: rest => (earlier, a) :: withActs acts (earlier ++ acts a) rest

/-- The value of an assignment counts if its target is declared; otherwise the
target is reported, at the place of the statement. -/
def Stmt.nameReports (acts : List Act) : Stmt → List Diagnostic
  | .declaration _ vars _ =>
      (withActs VarDecl.acts acts vars).flatMap fun (acts, v) => v.nameReports acts
  | .assignment target value span =>
      if Declared acts target then value.nameReports acts else [undeclaredUse target span]
  | .ret value _ => Expr.optionalReports acts value
  | .expr e _ => e.nameReports acts

/-- What there is to report about the names that a function uses, statement by
statement, with all parameters declared before the body. -/
def FunctionDef.nameReports (f : FunctionDef) : List Diagnostic :=
  (withActs Stmt.acts (f.params.flatMap Param.acts) f.body).flatMap
    fun (acts, s) => s.nameReports acts

/-! ### What the symbols know -/

/-- The symbols are those of the declared names, and the ones not initialized
are those of the unset names. -/
structure Heeds (m : NameMap Symbol) (acts : List Act) : Prop where
  declared : ∀ x, m.contains x = true ↔ Declared acts x
  unset : ∀ x symbol, m.get? x = some symbol → (symbol.initialized = false ↔ Unset acts x)

namespace Heeds

variable {m : NameMap Symbol} {acts : List Act} {x : String}

theorem empty : Heeds .empty [] where
  declared x := by simp [NameMap.contains]
  unset x symbol found := by cases found

theorem declared_of_get? (heeds : Heeds m acts) {symbol : Symbol} (found : m.get? x = some symbol) :
    Declared acts x := by
  rw [← heeds.declared, NameMap.contains, found, Option.isSome_some]

theorem not_declared_of_get? (heeds : Heeds m acts) (absent : m.get? x = none) :
    ¬ Declared acts x := by
  rw [← heeds.declared, NameMap.contains, absent]
  simp

theorem get?_eq_none (heeds : Heeds m acts) (undeclared : ¬ Declared acts x) :
    m.get? x = none := by
  rw [← heeds.declared, NameMap.contains] at undeclared
  simpa using undeclared

/-- A later declaration of a name changes nothing. -/
theorem again (heeds : Heeds m acts) (known : Declared acts x) (form : Form) :
    Heeds m (acts ++ [.declares form x]) := by
  constructor
  · intro y
    rw [heeds.declared, declared_concat]
    constructor
    · exact .inl
    · rintro (before | ⟨_, ⟨⟩⟩)
      · exact before
      · exact known
  · intro y symbol found
    rw [heeds.unset y symbol found, unset_concat]
    constructor
    · intro unset
      exact .inl ⟨unset, by simp⟩
    · rintro (⟨unset, -⟩ | ⟨fresh, ⟨⟩⟩)
      · exact unset
      · exact absurd known fresh

/-- The first declaration of a name brings its symbol, which is initialized
unless the declaration is a plain one. -/
theorem first (heeds : Heeds m acts) (fresh : ¬ Declared acts x) {form : Form} {symbol : Symbol}
    (starts : symbol.initialized = false ↔ form = .plain) :
    Heeds (m.insert x symbol) (acts ++ [.declares form x]) := by
  constructor
  · intro y
    rw [declared_concat, ← heeds.declared, NameMap.contains, NameMap.contains, NameMap.get?_insert]
    by_cases same : x = y <;> simp [same, Act.Introduces]
  · intro y found inserted
    rw [NameMap.get?_insert] at inserted
    rw [unset_concat]
    by_cases same : x = y
    · subst same
      rw [if_pos rfl] at inserted
      cases inserted
      have notUnset : ¬ Unset acts x := by
        rintro ⟨before, since, rfl, -, -⟩
        exact fresh ⟨_, by simp, .plain, rfl⟩
      simp [starts, notUnset, fresh]
    · rw [if_neg same] at inserted
      simp [heeds.unset y found inserted, same]

/-- An assignment initializes its target, if that is declared at all. -/
theorem assign (heeds : Heeds m acts) (target : String) (value : Option Constant) :
    Heeds (m.modify target (·.store value)) (acts ++ [.assigns target]) := by
  constructor
  · intro y
    rw [declared_concat, ← heeds.declared, NameMap.contains, NameMap.contains, NameMap.get?_modify]
    by_cases same : target = y <;> simp [same, Act.Introduces]
  · intro y symbol found
    rw [NameMap.get?_modify] at found
    rw [unset_concat]
    by_cases same : target = y
    · subst same
      rw [if_pos rfl] at found
      obtain ⟨old, -, rfl⟩ := Option.map_eq_some_iff.mp found
      simp [Symbol.store]
    · rw [if_neg same] at found
      simp [heeds.unset y symbol found, same]

end Heeds

/-! ### Expressions -/

/-- The kinds of diagnostic that tell of the use of a name. -/
def nameKinds : List DiagnosticKind := [.unknownIdentifier, .uninitializedUse]

section Expressions

variable {label : String} {m : NameMap Symbol} {acts : List Act}

theorem checkName_reports (heeds : Heeds m acts) (x : String) (span : Span) :
    (checkName (ofFunction label m) x span).2 = readReports acts x span := by
  rw [checkName, lookup?_ofFunction, readReports]
  cases found : m.get? x with
  | none =>
      rw [if_pos (heeds.not_declared_of_get? found)]
      rfl
  | some symbol =>
      rw [if_neg (not_not_intro (heeds.declared_of_get? found))]
      have unset := heeds.unset x symbol found
      cases initialized : symbol.initialized with
      | true =>
          rw [if_neg (by simp [← unset, initialized])]
          simp [initialized]
      | false =>
          rw [if_pos (unset.mp initialized)]
          simp only [initialized]
          rfl

theorem ofKinds_readReports (x : String) (span : Span) :
    ofKinds nameKinds (readReports acts x span) = readReports acts x span := by
  unfold readReports
  split
  · rfl
  · split <;> rfl

/-- An expression reports about each of its variables in turn; its operations
have nothing to say about names. -/
theorem Expr.check_nameReports (heeds : Heeds m acts) (e : Expr) :
    ofKinds nameKinds (e.check (ofFunction label m)).2 = e.nameReports acts := by
  induction e with
  | number value span => rfl
  | boolean value span => rfl
  | var name span =>
      rw [Expr.check, checkName_reports heeds, ofKinds_readReports]
      simp [Expr.nameReports, Expr.uses]
  | binary left op right span ihLeft ihRight =>
      simp only [Expr.check, ofKinds_append, ihLeft, ihRight]
      rw [ofKinds_eq_nil (binaryType_freeOf (by decide) _ _ _),
        ofKinds_eq_nil (binaryValue_freeOf (by decide) _ _ _ _), List.append_nil, List.append_nil]
      simp [Expr.nameReports, Expr.uses]

/-- Storing the value of an expression has nothing to say about names either. -/
theorem Expr.store_nameReports (heeds : Heeds m acts) (e : Expr) (target source : Ty)
    (name : String) (span : Span) :
    ofKinds nameKinds ((e.check (ofFunction label m)).2 ++ checkStore target source name span) =
      e.nameReports acts := by
  rw [ofKinds_append, e.check_nameReports heeds,
    ofKinds_eq_nil (checkStore_freeOf (by decide) _ _ _ _), List.append_nil]

end Expressions

/-! ### Passes -/

/-- The pass leaves symbols that heed the acts, and has the given reports about
names. -/
structure Pass.Answers (label : String) (acts : List Act) (reports : List Diagnostic)
    (pass : Pass) : Prop where
  heeded : ∃ m, pass.table = ofFunction label m ∧ Heeds m acts
  reported : ofKinds nameKinds pass.diagnostics = reports

namespace Pass.Answers

variable {label : String} {m : NameMap Symbol} {acts : List Act} {reports : List Diagnostic}
  {pass : Pass}

theorem andThen {acts' : List Act} {reports' : List Diagnostic} {next : Table → Pass}
    (answers : pass.Answers label acts reports)
    (goesOn : ∀ m, Heeds m acts → (next (ofFunction label m)).Answers label acts' reports') :
    (pass.andThen next).Answers label acts' (reports ++ reports') := by
  obtain ⟨⟨m, table, heeds⟩, reported⟩ := answers
  obtain ⟨⟨m', table', heeds'⟩, reported'⟩ := goesOn m heeds
  constructor
  · refine ⟨m', ?_, heeds'⟩
    rw [andThen_table, table, table']
  · rw [andThen_diagnostics, ofKinds_append, table, reported, reported']

/-- What each element answers behind the acts before it, a pass over the list
answers in turn. -/
theorem each {α : Type} {step : Table → α → Pass} {actsOf : α → List Act}
    {reportsOf : List Act → α → List Diagnostic}
    (steps : ∀ m acts a, Heeds m acts →
      (step (ofFunction label m) a).Answers label (acts ++ actsOf a) (reportsOf acts a))
    (heeds : Heeds m acts) (xs : List α) :
    (Pass.each step (ofFunction label m) xs).Answers label (acts ++ xs.flatMap actsOf)
      ((withActs actsOf acts xs).flatMap fun (acts, a) => reportsOf acts a) := by
  induction xs generalizing m acts with
  | nil => exact ⟨⟨m, rfl, by simpa using heeds⟩, rfl⟩
  | cons a rest ih =>
      have both : (Pass.each step (ofFunction label m) (a :: rest)).Answers label _ _ :=
        (steps m acts a heeds).andThen fun m' heeds' => ih heeds'
      rwa [List.append_assoc] at both

end Pass.Answers

/-! ### The check of a function -/

section Check

variable {label : String} {m : NameMap Symbol} {acts : List Act}

theorem checkParam_answers (heeds : Heeds m acts) (p : Param) :
    (checkParam (ofFunction label m) p).Answers label (acts ++ p.acts) [] := by
  cases found : m.get? p.name with
  | some existing =>
      rw [checkParam_duplicate found]
      exact ⟨⟨m, rfl, heeds.again (heeds.declared_of_get? found) .param⟩, rfl⟩
  | none =>
      rw [checkParam_fresh found]
      refine ⟨⟨_, rfl, heeds.first (heeds.not_declared_of_get? found) ?_⟩, rfl⟩
      simp [Symbol.withValue]

theorem checkVar_answers (type : Ty) (heeds : Heeds m acts) (v : VarDecl) :
    (checkVar type (ofFunction label m) v).Answers label (acts ++ v.acts) (v.nameReports acts) := by
  cases found : m.get? v.name with
  | some existing =>
      have known := heeds.declared_of_get? found
      rw [checkVar_duplicate found, VarDecl.nameReports, if_pos known]
      exact ⟨⟨m, rfl, heeds.again known _⟩, rfl⟩
  | none =>
      have fresh := heeds.not_declared_of_get? found
      rw [VarDecl.nameReports, if_neg fresh, VarDecl.acts]
      cases initial : v.init with
      | none =>
          rw [checkVar_plain found initial]
          refine ⟨⟨_, rfl, heeds.first fresh ?_⟩, rfl⟩
          simp [Symbol.declared]
      | some init =>
          rw [checkVar_initialized found initial rfl]
          refine ⟨⟨_, rfl, heeds.first fresh ?_⟩, init.store_nameReports heeds _ _ _ _⟩
          simp [Symbol.withValue]

theorem checkAssignment_answers (heeds : Heeds m acts) (target : String) (value : Expr)
    (span : Span) :
    (checkAssignment (ofFunction label m) target value span).Answers label
      (acts ++ [.assigns target])
      (if Declared acts target then value.nameReports acts else [undeclaredUse target span]) := by
  cases found : m.get? target with
  | none =>
      rw [checkAssignment_unknown found, if_neg (heeds.not_declared_of_get? found)]
      -- The act is recorded although nothing is stored: there is no symbol to store in.
      have spared : m.modify target (·.store none) = m := NameMap.modify_eq_self found _
      exact ⟨⟨m, rfl, spared ▸ heeds.assign target none⟩, rfl⟩
  | some symbol =>
      rw [checkAssignment_declared found rfl, if_pos (heeds.declared_of_get? found)]
      exact ⟨⟨_, rfl, heeds.assign target _⟩, value.store_nameReports heeds _ _ _ _⟩

theorem checkStmt_answers (function : String) (heeds : Heeds m acts) (s : Stmt) :
    (checkStmt function (ofFunction label m) s).Answers label (acts ++ s.acts)
      (s.nameReports acts) := by
  have same : Heeds m (acts ++ []) := by rwa [List.append_nil]
  cases s with
  | declaration type vars span =>
      exact .each (fun _ _ v heeds => checkVar_answers _ heeds v) heeds vars
  | assignment target value span => exact checkAssignment_answers heeds target value span
  | ret value span =>
      cases value with
      | none => exact ⟨⟨m, rfl, same⟩, rfl⟩
      | some value => exact ⟨⟨m, rfl, same⟩, value.check_nameReports heeds⟩
  | expr e span => exact ⟨⟨m, rfl, same⟩, e.check_nameReports heeds⟩

theorem FunctionDef.pass_answers (f : FunctionDef) :
    f.pass.Answers (functionLabel f.name)
      (f.params.flatMap Param.acts ++ f.body.flatMap Stmt.acts) f.nameReports := by
  have silent : ((withActs Param.acts [] f.params).flatMap fun _ => ([] : List Diagnostic)) = [] :=
    List.flatMap_eq_nil_iff.mpr fun _ _ => rfl
  have params : f.paramsPass.Answers (functionLabel f.name) (f.params.flatMap Param.acts) [] := by
    rw [← silent]
    exact .each (fun _ _ p heeds => checkParam_answers heeds p) .empty f.params
  exact params.andThen fun m heeds =>
    .each (fun _ _ s heeds => checkStmt_answers f.name heeds s) heeds f.body

end Check

/-- **Uses of names.** What a check reports about names that are not declared,
or are read too early, is what the acts before each use say: in report order,
with the names and the places. -/
theorem analyze_name_uses (p : Program) :
    ofKinds [.unknownIdentifier, .uninitializedUse] (analyze p).diagnostics =
      p.function.nameReports := by
  have result : ofKinds nameKinds (checkResult p.function) = [] :=
    ofKinds_eq_nil (freeOf_checkResult (by decide) p.function)
  show ofKinds nameKinds (analyze p).diagnostics = _
  rw [analyze_diagnostics, ofKinds_append, result, List.append_nil]
  exact p.function.pass_answers.reported

/-- `int x, y = x; z = x; x = x + z; return x; int x = q;`: `x` is unset in `y`
and in its own first value, and neither the value of `z` nor the second initial
value of `x` counts. -/
example (place : Nat → Span) :
    FunctionDef.nameReports
      { returnType := .int
        name := "f"
        body :=
          [.declaration .int [{ name := "x" }, { name := "y", init := some (.var "x" (place 1)) }]
              .unknown,
            .assignment "z" (.var "x" (place 2)) (place 3),
            .assignment "x" (.binary (.var "x" (place 4)) .plus (.var "z" (place 5)) .unknown)
              (place 6),
            .ret (some (.var "x" (place 7))) .unknown,
            .declaration .int [{ name := "x", init := some (.var "q" (place 8)) }] .unknown] } =
      [unsetUse "x" (place 1), undeclaredUse "z" (place 3), unsetUse "x" (place 4),
        undeclaredUse "z" (place 5)] := rfl

end Scopewise
