/-
Initial values are assignments.

A variable can get its first value in its declaration or in an assignment right
behind it. The two are checked by different parts of the check, and the second
finds the variable declared already. They come to the same: the final table does
not change, and the report changes only by the warning that the declaration has
no initial value (`analyze_split_declaration`).

The value must not mention the variable. Then it is checked alike before and
behind the declaration (`Expr.check_congr`), and a symbol that is declared and
then assigned is one that starts with the value.
-/

import Scopewise.Proofs.Recovery

namespace Scopewise

open Diagnostics Table

/-- An expression is checked alike in two tables that know the same of its
variables. -/
theorem Expr.check_congr {t t' : Table} {e : Expr}
    (same : ∀ x ∈ e.names, t'.lookup? x = t.lookup? x) : e.check t' = e.check t := by
  induction e with
  | number value span => rfl
  | boolean value span => rfl
  | var name span =>
      have found : t'.lookup? name = t.lookup? name := same name (List.mem_singleton_self name)
      rw [check, check, checkName, checkName, found]
  | binary left op right span ihLeft ihRight =>
      have onLeft := ihLeft fun x mem => same x (List.mem_append_left _ mem)
      have onRight := ihRight fun x mem => same x (List.mem_append_right _ mem)
      simp only [check, onLeft, onRight]

/-- To declare a name and then to store a value in it is to declare it with the
value. -/
theorem NameMap.modify_insert_declared (m : NameMap Symbol) (x : String) (type : Ty)
    (place : Position) (value : Option Constant) :
    (m.insert x (.declared x type place)).modify x (·.store value) =
      m.insert x (.withValue x type value place) := by
  refine ext_get? ?_
  intro key
  rw [get?_modify, get?_insert, get?_insert]
  split <;> rfl

section Split

variable {function label x : String} {m : NameMap Symbol} {e : Expr} {outcome : Outcome}
  {report : List Diagnostic}

/-- The declaration of `x` with the initial value `e`. -/
theorem checkStmt_initialized (fresh : m.get? x = none)
    (checked : e.check (ofFunction label m) = (outcome, report)) (type : TypeName)
    (place span : Span) :
    checkStmt function (ofFunction label m)
        (.declaration type [{ name := x, init := some e, span := place }] span) =
      { table := ofFunction label
          (m.insert x (.withValue x (.ofTypeName type) outcome.value place.start))
        diagnostics := report ++ checkStore (.ofTypeName type) outcome.type x e.span
        events := [.declaredInitialized x outcome.value] } := by
  rw [checkStmt, Pass.each_singleton, checkVar_initialized fresh rfl checked]

/-- The declaration of `x` without an initial value, and then the assignment of
`e` to it. -/
theorem checkStmt_plain_assigned (fresh : m.get? x = none) (apart : x ∉ e.names)
    (checked : e.check (ofFunction label m) = (outcome, report)) (type : TypeName)
    (place span₁ span₂ : Span) :
    Pass.each (checkStmt function) (ofFunction label m)
        [.declaration type [{ name := x, span := place }] span₁, .assignment x e span₂] =
      { table := ofFunction label
          (m.insert x (.withValue x (.ofTypeName type) outcome.value place.start))
        diagnostics := Finding.declaredUninitialized { name := x, span := place } ::
          (report ++ checkStore (.ofTypeName type) outcome.type x e.span)
        events := [.declaredUninitialized x (.ofTypeName type), .assigned x outcome.value] } := by
  have plain : checkStmt function (ofFunction label m)
      (.declaration type [{ name := x, span := place }] span₁) = _ :=
    (Pass.each_singleton ..).trans (checkVar_plain fresh rfl)
  have declared : (m.insert x (.declared x (.ofTypeName type) place.start)).get? x =
      some (.declared x (.ofTypeName type) place.start) := by
    rw [NameMap.get?_insert, if_pos rfl]
  have again : e.check (ofFunction label (m.insert x
      (.declared x (.ofTypeName type) place.start))) = (outcome, report) := by
    rw [← checked]
    refine Expr.check_congr ?_
    intro y mem
    have other : x ≠ y := fun equal => apart (equal ▸ mem)
    rw [lookup?_ofFunction, lookup?_ofFunction, NameMap.get?_insert, if_neg other]
  have assigned : checkStmt function _ (.assignment x e span₂) = _ :=
    checkAssignment_declared declared again
  rw [NameMap.modify_insert_declared] at assigned
  rw [Pass.each, plain, Pass.andThen, Pass.each_singleton, assigned]
  rfl

end Split

/-- A piece of a body can be replaced by one that leaves the same table and
returns if that did. All that changes is what the piece itself reports. -/
theorem analyze_replace (p : Program) (before : List Stmt) {old new : List Stmt}
    (rest : List Stmt) {pass pass' : Pass}
    (checked : Pass.each (checkStmt p.function.name) (p.function.passUpTo before).table old = pass)
    (checked' : Pass.each (checkStmt p.function.name) (p.function.passUpTo before).table new =
      pass')
    (table : pass'.table = pass.table) (returns : new.any Stmt.isReturn = old.any Stmt.isReturn) :
    (analyze (p.withBody (before ++ (new ++ rest)))).table =
        (analyze (p.withBody (before ++ (old ++ rest)))).table ∧
      ∃ B,
        (analyze (p.withBody (before ++ (old ++ rest)))).diagnostics =
          (p.function.passUpTo before).diagnostics ++ pass.diagnostics ++ B ∧
        (analyze (p.withBody (before ++ (new ++ rest)))).diagnostics =
          (p.function.passUpTo before).diagnostics ++ pass'.diagnostics ++ B := by
  have result : checkResult { p.function with body := before ++ (new ++ rest) } =
      checkResult { p.function with body := before ++ (old ++ rest) } := by
    have same : FunctionDef.hasReturn { p.function with body := before ++ (new ++ rest) } =
        FunctionDef.hasReturn { p.function with body := before ++ (old ++ rest) } := by
      simp only [FunctionDef.hasReturn, List.any_append, returns]
    unfold checkResult
    rw [same]
    rfl
  obtain ⟨left, reported⟩ := analyze_withBody p before (old ++ rest)
  obtain ⟨left', reported'⟩ := analyze_withBody p before (new ++ rest)
  rw [Pass.each_append, checked, Pass.andThen_table] at left
  rw [Pass.each_append, checked', Pass.andThen_table, table] at left'
  rw [Pass.each_append, checked, Pass.andThen_diagnostics] at reported
  rw [Pass.each_append, checked', Pass.andThen_diagnostics, table, result] at reported'
  refine ⟨left'.trans left.symm,
    (Pass.each (checkStmt p.function.name) pass.table rest).diagnostics ++
      checkResult { p.function with body := before ++ (old ++ rest) }, ?_, ?_⟩
  · rw [reported]
    simp only [List.append_assoc]
  · rw [reported']
    simp only [List.append_assoc]

/-- **Initial values are assignments.** Let a variable that is not declared yet
be declared alone, with an initial value that does not mention it. If the value
is assigned behind the declaration instead, the final table stays the same, and
the report gets one more warning, directly before what is reported about the
value; nothing else changes. -/
theorem analyze_split_declaration {p : Program} {before rest : List Stmt} {type : TypeName}
    {x : String} {e : Expr} {place span : Span}
    (body : p.function.body =
      before ++ .declaration type [{ name := x, init := some e, span := place }] span :: rest)
    (fresh : ¬ Declared (p.function.actsUpTo before) x) (apart : x ∉ e.names)
    (span₁ span₂ : Span) :
    let split := p.withBody
      (before ++ .declaration type [{ name := x, span := place }] span₁ ::
        .assignment x e span₂ :: rest)
    (analyze split).table = (analyze p).table ∧
      ∃ A E B,
        (analyze p).diagnostics = A ++ E ++ B ∧
        (analyze split).diagnostics =
          A ++ [{ kind := .uninitializedDeclaration
                  message := "Variable '" ++ x ++ "' declared but not initialized"
                  span := some place }] ++ E ++ B ∧
        A = (p.function.passUpTo before).diagnostics ∧
        E = (e.check (p.function.passUpTo before).table).2 := by
  intro split
  have whole : p = p.withBody (before ++
      .declaration type [{ name := x, init := some e, span := place }] span :: rest) := by
    rw [← body]
    rfl
  obtain ⟨m, entered, heeds⟩ := p.function.heeds_passUpTo before
  have absent : m.get? x = none := heeds.get?_eq_none fresh
  rcases checked : e.check (ofFunction (functionLabel p.function.name) m) with ⟨outcome, report⟩
  have together : checkStmt p.function.name (p.function.passUpTo before).table _ = _ :=
    entered ▸ checkStmt_initialized absent checked type place span
  have inTurn : Pass.each (checkStmt p.function.name) (p.function.passUpTo before).table _ = _ :=
    entered ▸ checkStmt_plain_assigned absent apart checked type place span₁ span₂
  obtain ⟨table, B, reported, reported'⟩ := analyze_replace p before rest
    ((Pass.each_singleton ..).trans together) inTurn rfl rfl
  rw [List.singleton_append, ← whole] at table reported
  refine ⟨table, _, report, checkStore (.ofTypeName type) outcome.type x e.span ++ B,
    reported.trans ?_, reported'.trans ?_, rfl, ?_⟩
  · simp only [List.append_assoc]
  · simp [Finding.declaredUninitialized, Diagnostic.located]
  · rw [entered, checked]

/-- A program that stores in a truth value the result of a division by zero, in
the middle of other faults. -/
def Program.misled : Program where
  function :=
    { returnType := .int
      name := "f"
      params := [{ type := .int, name := "n" }]
      body :=
        [.assignment "b" (.var "n" .unknown) .unknown,
          .declaration .bool
            [{ name := "b"
               init := some (.binary (.var "n" .unknown) .divide (.number 0 .unknown) .unknown)
               span := .point ⟨2, 5⟩ }] .unknown,
          .assignment "n" (.var "b" .unknown) .unknown,
          .declaration .int [{ name := "b" }] .unknown] }

/-- The faults of the initial value, and those behind it, stay as they are. -/
theorem analyze_split_declaration_misled :
    ∃ before type x e place span rest,
      Program.misled.function.body =
        before ++ .declaration type [{ name := x, init := some e, span := place }] span :: rest ∧
      ¬ Declared (Program.misled.function.actsUpTo before) x ∧ x ∉ e.names ∧
      (analyze .misled).diagnostics.map (·.kind) =
        [.unknownIdentifier, .arithmeticFault, .typeMismatch, .typeMismatch, .structuralDuplicate,
          .missingReturn] ∧
      let split := Program.misled.withBody
        (before ++ .declaration type [{ name := x, span := place }] .unknown ::
          .assignment x e .unknown :: rest)
      (analyze split).table = (analyze .misled).table ∧
        ∃ A E B,
          (analyze .misled).diagnostics = A ++ E ++ B ∧
          (analyze split).diagnostics =
            A ++ [{ kind := .uninitializedDeclaration
                    message := "Variable '" ++ x ++ "' declared but not initialized"
                    span := some place }] ++ E ++ B ∧
          A = (Program.misled.function.passUpTo before).diagnostics ∧
          E = (e.check (Program.misled.function.passUpTo before).table).2 :=
  ⟨[.assignment "b" (.var "n" .unknown) .unknown], .bool, "b",
    .binary (.var "n" .unknown) .divide (.number 0 .unknown) .unknown, .point ⟨2, 5⟩, .unknown,
    [.assignment "n" (.var "b" .unknown) .unknown, .declaration .int [{ name := "b" }] .unknown],
    rfl, by decide, by decide, by decide,
    analyze_split_declaration rfl (by decide) (by decide) .unknown .unknown⟩

end Scopewise
