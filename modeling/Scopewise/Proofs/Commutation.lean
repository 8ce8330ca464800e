/-
Independent statements commute.

Two statements are independent if neither writes a name that the other one reads
or writes. They may stand in either order: the final symbol table is the same,
and each reports what it reported before, so that the diagnostics of the two
change places and nothing else happens to the report (`analyze_swap`).

There are two parts to this. A statement changes the symbols under the names
that it writes only (`Stmt.get?_after`), and what it does and reports depends on
the symbols in its own footprint only (`Stmt.get?_after_congr`,
`checkStmt_diagnostics_congr`). None of this asks the statements to be correct.
-/

import Scopewise.Proofs.Relabelling

namespace Scopewise

open Table Diagnostics

/-! ### Statements depend on their footprint -/

/-- The names that a statement reads or writes. -/
def Stmt.footprint (s : Stmt) : List String := s.reads ++ s.writes

/-- Neither statement writes a name that the other one reads or writes. -/
def Stmt.Independent (s₁ s₂ : Stmt) : Prop :=
  (∀ x ∈ s₁.writes, x ∉ s₂.footprint) ∧ ∀ x ∈ s₂.writes, x ∉ s₁.footprint

instance (s₁ s₂ : Stmt) : Decidable (s₁.Independent s₂) :=
  inferInstanceAs (Decidable
    ((∀ x ∈ s₁.writes, x ∉ s₂.footprint) ∧ ∀ x ∈ s₂.writes, x ∉ s₁.footprint))

/-- A program is compared with itself, on the given names. -/
def Comparison.within (names : List String) : Comparison where
  names := { x | x ∈ names }
  ignored := []
  name_injOn := Set.injOn_id _
  constants := .inl (Relabelling.keepsConstants id id)

/-- Two maps agree on names if they hold the same under these names. -/
theorem Comparison.within_agree_iff {names : List String} {m m' : NameMap Symbol} :
    (Comparison.within names).Agree m m' ↔ ∀ x ∈ names, m'.get? x = m.get? x := by
  constructor
  · intro agree x mem
    have image := agree.get?_eq_map (Relabelling.keepsConstants id id) mem
    rw [show Symbol.map (Comparison.within names).toRelabelling = id from rfl,
      Option.map_id_apply] at image
    exact image
  · intro same
    constructor
    · intro x s mem found
      exact ⟨s, (same x mem).trans found, rfl, rfl, rfl, rfl, fun _ => rfl⟩
    · intro x mem found
      exact (same x mem).trans found

namespace Stmt

variable {function label : String} {m m' : NameMap Symbol} {x : String}

/-- The symbols of the function behind a statement. -/
def after (s : Stmt) (function label : String) (m : NameMap Symbol) : NameMap Symbol :=
  (checkStmt function (ofFunction label m) s).table.currentScope.symbols

theorem table_after (s : Stmt) (function label : String) (m : NameMap Symbol) :
    (checkStmt function (ofFunction label m) s).table =
      ofFunction label (s.after function label m) := by
  obtain ⟨m', table⟩ := checkStmt_ofFunction function m s
  rw [after, table]
  rfl

theorem get?_after {s : Stmt} (unwritten : x ∉ s.writes) :
    (s.after function label m).get? x = m.get? x := by
  obtain ⟨m', table, kept⟩ := checkStmt_changesOnly function m s
  rw [after, table]
  exact kept x unwritten

/-- Symbols that agree on the footprint of a statement are checked alike. -/
theorem passes_within {s : Stmt} (agree : ∀ x ∈ s.footprint, m'.get? x = m.get? x) :
    (Comparison.within s.footprint).Passes label (checkStmt function (ofFunction label m) s)
      (checkStmt function (ofFunction label m') s) := by
  have passes : (Comparison.within s.footprint).Passes label
      (checkStmt function (ofFunction label m) s)
      (checkStmt function (ofFunction label m') (s.map {})) := by
    refine Comparison.check_stmt (Comparison.within_agree_iff.mpr agree) function ?_ ?_
    · intro x read
      exact List.mem_append_left _ read
    · intro x written
      exact List.mem_append_right _ written
  rw [s.map_id] at passes
  exact passes

theorem get?_after_congr {s : Stmt} (agree : ∀ x ∈ s.footprint, m'.get? x = m.get? x)
    (inside : x ∈ s.footprint) :
    (s.after function label m').get? x = (s.after function label m).get? x := by
  obtain ⟨n, n', table, table', agrees⟩ := (passes_within agree).tables
  rw [after, after, table, table']
  exact Comparison.within_agree_iff.mp agrees x inside

end Stmt

section Swap

variable {function label : String} {m m' : NameMap Symbol} {s₁ s₂ : Stmt}

theorem checkStmt_diagnostics_congr {s : Stmt}
    (agree : ∀ x ∈ s.footprint, m'.get? x = m.get? x) :
    (checkStmt function (ofFunction label m') s).diagnostics =
      (checkStmt function (ofFunction label m) s).diagnostics := by
  have passes : (Comparison.within s.footprint).Passes label
      (checkStmt function (ofFunction label m) s) (checkStmt function (ofFunction label m') s) :=
    s.passes_within agree
  have same := passes.reports.eq (fun _ => rfl) fun _ => rfl
  rw [Comparison.within, without_nothing, without_nothing] at same
  exact same

/-- A statement leaves alone what an independent one looks at. -/
theorem Stmt.get?_after_of_apart (apart : ∀ x ∈ s₁.writes, x ∉ s₂.footprint) :
    ∀ x ∈ s₂.footprint, (s₁.after function label m).get? x = m.get? x := by
  intro x inside
  exact get?_after fun written => apart x written inside

/-- Independent statements leave the same symbols in either order. -/
theorem Stmt.after_comm (independent : s₁.Independent s₂) :
    s₁.after function label (s₂.after function label m) =
      s₂.after function label (s₁.after function label m) := by
  obtain ⟨apart₁, apart₂⟩ := independent
  refine NameMap.ext_get? ?_
  intro x
  by_cases written₁ : x ∈ s₁.writes
  · have unwritten₂ : x ∉ s₂.writes := fun mem =>
      apart₁ x written₁ (List.mem_append_right _ mem)
    rw [get?_after unwritten₂]
    exact get?_after_congr (get?_after_of_apart apart₂) (List.mem_append_right _ written₁)
  · rw [get?_after written₁]
    by_cases written₂ : x ∈ s₂.writes
    · symm
      exact get?_after_congr (get?_after_of_apart apart₁) (List.mem_append_right _ written₂)
    · rw [get?_after written₂, get?_after written₂, get?_after written₁]

end Swap

/-! ### Functions and programs -/

namespace FunctionDef

variable {f : FunctionDef} {before : List Stmt} {s₁ s₂ : Stmt}

/-- The check of the parameters and then of the statements `before`. -/
def passUpTo (f : FunctionDef) (before : List Stmt) : Pass := { f with body := before }.pass

/-- What a statement reports if it is checked behind the statements `before`. -/
def contribution (f : FunctionDef) (before : List Stmt) (s : Stmt) : List Diagnostic :=
  (checkStmt f.name (f.passUpTo before).table s).diagnostics

theorem passUpTo_append (f : FunctionDef) (before rest : List Stmt) :
    f.passUpTo (before ++ rest) =
      (f.passUpTo before).andThen fun t => Pass.each (checkStmt f.name) t rest := by
  unfold passUpTo pass
  rw [Pass.andThen_assoc]
  simp only [Pass.each_append]
  rfl

/-- The symbols behind one more statement are those that it leaves. -/
theorem table_passUpTo_snoc {m : NameMap Symbol}
    (table : (f.passUpTo before).table = ofFunction (functionLabel f.name) m) (s : Stmt) :
    (f.passUpTo (before ++ [s])).table =
      ofFunction (functionLabel f.name) (s.after f.name (functionLabel f.name) m) := by
  rw [passUpTo_append, Pass.andThen_table, table]
  exact s.table_after ..

theorem diagnostics_passUpTo_snoc (f : FunctionDef) (before : List Stmt) (s : Stmt) :
    (f.passUpTo (before ++ [s])).diagnostics =
      (f.passUpTo before).diagnostics ++ f.contribution before s := by
  rw [passUpTo_append, Pass.andThen_diagnostics]
  simp [Pass.each, contribution]

theorem diagnostics_passUpTo_pair (f : FunctionDef) (before : List Stmt) (s₁ s₂ : Stmt) :
    (f.passUpTo (before ++ [s₁, s₂])).diagnostics =
      (f.passUpTo before).diagnostics ++ f.contribution before s₁ ++
        f.contribution (before ++ [s₁]) s₂ := by
  rw [← diagnostics_passUpTo_snoc, ← diagnostics_passUpTo_snoc, List.append_assoc]
  rfl

/-- A statement contributes the same in front of a statement that is independent
of it and behind that statement. -/
theorem contribution_behind (f : FunctionDef) (before : List Stmt)
    (apart : ∀ x ∈ s₁.writes, x ∉ s₂.footprint) :
    f.contribution (before ++ [s₁]) s₂ = f.contribution before s₂ := by
  obtain ⟨m, table⟩ := pass_ofFunction { f with body := before }
  have behind := table_passUpTo_snoc table s₁
  unfold contribution
  rw [behind, show (f.passUpTo before).table = _ from table]
  exact checkStmt_diagnostics_congr (Stmt.get?_after_of_apart apart)

theorem table_passUpTo_swap (f : FunctionDef) (before : List Stmt)
    (independent : s₁.Independent s₂) :
    (f.passUpTo (before ++ [s₂, s₁])).table = (f.passUpTo (before ++ [s₁, s₂])).table := by
  obtain ⟨m, table⟩ := pass_ofFunction { f with body := before }
  have both (s t : Stmt) := table_passUpTo_snoc (table_passUpTo_snoc table s) t
  simp only [List.append_assoc, List.singleton_append] at both
  rw [both, both, Stmt.after_comm independent]

theorem checkResult_swap (f : FunctionDef) (before rest : List Stmt) (s₁ s₂ : Stmt) :
    checkResult { f with body := before ++ [s₂, s₁] ++ rest } =
      checkResult { f with body := before ++ [s₁, s₂] ++ rest } := by
  have returns : hasReturn { f with body := before ++ [s₂, s₁] ++ rest } =
      hasReturn { f with body := before ++ [s₁, s₂] ++ rest } := by
    simp only [hasReturn, List.any_append, List.any_cons, Bool.or_left_comm]
  unfold checkResult
  rw [returns]
  rfl

end FunctionDef

/-- The program with another body. -/
def Program.withBody (p : Program) (body : List Stmt) : Program :=
  { p with function := { p.function with body } }

/-- A body is checked in two parts, of which the second goes on with the table
that the first leaves. -/
theorem analyze_withBody (p : Program) (before rest : List Stmt) :
    let last := Pass.each (checkStmt p.function.name) (p.function.passUpTo before).table rest
    (analyze (p.withBody (before ++ rest))).table = (leaveFunction last.table).table ∧
      (analyze (p.withBody (before ++ rest))).diagnostics =
        (p.function.passUpTo before).diagnostics ++
          (last.diagnostics ++ checkResult { p.function with body := before ++ rest }) := by
  have pass := p.function.passUpTo_append before rest
  constructor
  · show (leaveFunction (p.function.passUpTo (before ++ rest)).table).table = _
    rw [pass, Pass.andThen_table]
  · rw [analyze_diagnostics]
    show (p.function.passUpTo (before ++ rest)).diagnostics ++ _ = _
    rw [pass, Pass.andThen_diagnostics, List.append_assoc]
    rfl

/-- **Independent statements commute.** Two adjacent statements that are
independent can change places. The final table stays the same, and the report
stays the same but for the contributions of the two, which change places as
well; each of them contributes the same in either place. -/
theorem analyze_swap {p : Program} {before rest : List Stmt} {s₁ s₂ : Stmt}
    (body : p.function.body = before ++ [s₁, s₂] ++ rest) (independent : s₁.Independent s₂) :
    (analyze (p.withBody (before ++ [s₂, s₁] ++ rest))).table = (analyze p).table ∧
      ∃ A D₁ D₂ B,
        (analyze p).diagnostics = A ++ D₁ ++ D₂ ++ B ∧
        (analyze (p.withBody (before ++ [s₂, s₁] ++ rest))).diagnostics = A ++ D₂ ++ D₁ ++ B ∧
        A = (p.function.passUpTo before).diagnostics ∧
        D₁ = p.function.contribution before s₁ ∧
        D₁ = p.function.contribution (before ++ [s₂]) s₁ ∧
        D₂ = p.function.contribution before s₂ ∧
        D₂ = p.function.contribution (before ++ [s₁]) s₂ := by
  have whole : p = p.withBody (before ++ [s₁, s₂] ++ rest) := by
    rw [← body]
    rfl
  obtain ⟨table, diagnostics⟩ := analyze_withBody p (before ++ [s₁, s₂]) rest
  obtain ⟨table', diagnostics'⟩ := analyze_withBody p (before ++ [s₂, s₁]) rest
  rw [← whole] at table diagnostics
  rw [p.function.table_passUpTo_swap before independent] at table' diagnostics'
  have first := p.function.contribution_behind before independent.2
  have second := p.function.contribution_behind before independent.1
  rw [FunctionDef.diagnostics_passUpTo_pair, second] at diagnostics
  rw [FunctionDef.diagnostics_passUpTo_pair, first, FunctionDef.checkResult_swap] at diagnostics'
  exact ⟨table'.trans table.symm, _, _, _, _, diagnostics, diagnostics', rfl, rfl, first.symm, rfl,
    second.symm⟩

/-- A program in which a declaration group with a duplicate and a bad initial
value stands behind an ill-typed assignment that has nothing to do with it. -/
def Program.untidy : Program where
  function :=
    { returnType := .void
      name := "f"
      params := [{ type := .int, name := "n" }]
      body :=
        [.declaration .int [{ name := "x" }] .unknown,
          .assignment "x" (.boolean true .unknown) .unknown,
          .declaration .bool
            [{ name := "b", init := some (.var "n" .unknown) }, { name := "n" }] .unknown,
          .expr (.var "x" .unknown) .unknown] }

/-- The assignment and the declaration can change places. -/
theorem analyze_swap_untidy :
    ∃ before s₁ s₂ rest,
      Program.untidy.function.body = before ++ [s₁, s₂] ++ rest ∧ s₁.Independent s₂ ∧
      (Program.untidy.function.contribution before s₁).map (·.kind) = [.typeMismatch] ∧
      (Program.untidy.function.contribution before s₂).map (·.kind) =
        [.typeMismatch, .structuralDuplicate] ∧
      (analyze (Program.untidy.withBody (before ++ [s₂, s₁] ++ rest))).table =
        (analyze .untidy).table ∧
      ∃ A D₁ D₂ B,
        (analyze .untidy).diagnostics = A ++ D₁ ++ D₂ ++ B ∧
        (analyze (Program.untidy.withBody (before ++ [s₂, s₁] ++ rest))).diagnostics =
          A ++ D₂ ++ D₁ ++ B ∧
        A = (Program.untidy.function.passUpTo before).diagnostics ∧
        D₁ = Program.untidy.function.contribution before s₁ ∧
        D₁ = Program.untidy.function.contribution (before ++ [s₂]) s₁ ∧
        D₂ = Program.untidy.function.contribution before s₂ ∧
        D₂ = Program.untidy.function.contribution (before ++ [s₁]) s₂ :=
  ⟨[.declaration .int [{ name := "x" }] .unknown],
    .assignment "x" (.boolean true .unknown) .unknown,
    .declaration .bool
      [{ name := "b", init := some (.var "n" .unknown) }, { name := "n" }] .unknown,
    [.expr (.var "x" .unknown) .unknown], rfl, by decide, by decide, by decide,
    analyze_swap rfl (by decide)⟩

end Scopewise
