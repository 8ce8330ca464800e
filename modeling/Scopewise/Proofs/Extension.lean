/-
Longer bodies.

Further statements at the end of a body add to what a check finds out and take
nothing back. The report goes on where it ended, apart from a missing return,
which may turn up behind the old body. Every symbol stays, with its type and its
place, and one that is not assigned stays as it is, whatever else the statements
do (`analyze_extended`).

Statements change the table by their calls alone, and what calls make of a symbol
is known from the life of symbols. All that has to be known of the statements is
which names they assign (`Stmt.mem_calls`).
-/

import Mathlib.Data.List.DropRight
import Scopewise.Proofs.Calls
import Scopewise.Proofs.Commutation
import Scopewise.Proofs.Returns

namespace Scopewise

open Diagnostics Table

/-! ### The calls of further statements -/

section Calls

variable {t : Table} {function : String} {body : List Stmt}

theorem reset_notMem_operations :
    .reset ∉ (RecordedPass.each (Stmt.recorded function) t body).operations := by
  intro mem
  obtain ⟨answer, made⟩ := RecordedPass.exists_call mem
  obtain ⟨t', s, -, made⟩ := RecordedPass.mem_calls_each made
  rcases Stmt.mem_calls made with ⟨-, ⟨_, declares⟩ | ⟨_, _, _, _, -, assigns⟩⟩
  · cases declares
  · cases assigns

/-- A body assigns only to the targets of its assignments. -/
theorem exists_assignment_of_mem_operations {name : String} {stored : Option Constant}
    (mem : .assign name stored ∈
      (RecordedPass.each (Stmt.recorded function) t body).operations) :
    ∃ value span, Stmt.assignment name value span ∈ body := by
  obtain ⟨answer, made⟩ := RecordedPass.exists_call mem
  obtain ⟨t', s, among, made⟩ := RecordedPass.mem_calls_each made
  rcases Stmt.mem_calls made with ⟨-, ⟨_, declares⟩ | ⟨_, value, span, _, rfl, assigns⟩⟩
  · cases declares
  · cases assigns
    exact ⟨value, span, among⟩

end Calls

/-! ### What becomes of a symbol -/

/-- A symbol that no operation of a run assigns stays as it is. -/
theorem Table.WellFormed.symbolAt?_run {t : Table} (wf : t.WellFormed) {id : Nat} {name : String}
    {symbol : Symbol} (held : t.symbolAt? id name = some symbol) {ops : List Operation}
    (goesOn : .reset ∉ ops) (unassigned : ∀ value, .assign name value ∉ ops) :
    (t.run ops).symbolAt? id name = some symbol := by
  apply wf.run_induction (P := (·.symbolAt? id name = some symbol)) held
  intro s op mem wf held
  have notReset : op ≠ .reset := fun same => goesOn (same ▸ mem)
  rcases wf.symbolAt?_perform notReset held with same | ⟨value, rfl, -, -⟩
  · exact same
  · exact absurd mem (unassigned value)

/-- What statements make of a symbol that is there before them. -/
theorem checkBody_symbolAt? {t : Table} (wf : t.WellFormed) {id : Nat} {name : String}
    {symbol : Symbol} (held : t.symbolAt? id name = some symbol) (function : String)
    (body : List Stmt) :
    ∃ after, (Pass.each (checkStmt function) t body).table.symbolAt? id name = some after ∧
      symbol.Becomes after ∧
      ((∀ value span, .assignment name value span ∉ body) → after = symbol) := by
  rw [(RecordedPass.Records.each (Stmt.recorded_records function) t body).table]
  obtain ⟨after, found, becomes⟩ := Keeps.run wf held reset_notMem_operations
  refine ⟨after, found, becomes, ?_⟩
  intro untargeted
  have unassigned (stored : Option Constant) :
      .assign name stored ∉
        (RecordedPass.each (Stmt.recorded function) t body).operations := by
    intro mem
    obtain ⟨value, span, among⟩ := exists_assignment_of_mem_operations mem
    exact untargeted value span among
  rw [wf.symbolAt?_run held reset_notMem_operations unassigned] at found
  exact (Option.some.inj found).symm

theorem FunctionDef.wellFormed_passUpTo (f : FunctionDef) (before : List Stmt) :
    (f.passUpTo before).table.WellFormed := by
  have opened : (ofFunction (functionLabel f.name) .empty).WellFormed :=
    wellFormed_new.enter (functionLabel f.name)
  have params := RecordedPass.Records.each Param.recorded_records
    (ofFunction (functionLabel f.name) .empty) f.params
  have recorded := params.andThen fun t => .each (Stmt.recorded_records f.name) t before
  rw [show (f.passUpTo before).table = _ from recorded.table]
  exact opened.run _

/-! ### Programs -/

/-- Without a missing return at its end, the report is what the parameters and the
body give rise to. -/
theorem rdropWhile_missingReturn (p : Program) :
    (analyze p).diagnostics.rdropWhile (·.kind = .missingReturn) = p.function.pass.diagnostics := by
  have settled : p.function.pass.diagnostics.rdropWhile (·.kind = .missingReturn) =
      p.function.pass.diagnostics := by
    rw [List.rdropWhile_eq_self_iff]
    intro nonempty
    simpa using FunctionDef.kind_ne_missingReturn (List.getLast_mem nonempty)
  rcases analyze_diagnostics_cases p with ⟨-, reported⟩ | ⟨-, reported⟩
  · rw [reported, List.rdropWhile_concat_pos _ _ _ (by simp), settled]
  · rw [reported, settled]

/-- **Longer bodies.** If a body is extended by further statements, the report,
apart from a missing return at its end, is the beginning of the new report. Every
symbol of the function is still there, with its name, its type and its place, and
initialized if it was. If none of the statements assigns it, it has not changed at
all. -/
theorem analyze_extended (p : Program) (body more : List Stmt) :
    (analyze (p.withBody body)).diagnostics.rdropWhile (·.kind = .missingReturn) <+:
        (analyze (p.withBody (body ++ more))).diagnostics ∧
      ∃ id scope scope',
        (analyze (p.withBody body)).table.global.children = [id] ∧
        (analyze (p.withBody body)).table.scope? id = some scope ∧
        (analyze (p.withBody (body ++ more))).table.global.children = [id] ∧
        (analyze (p.withBody (body ++ more))).table.scope? id = some scope' ∧
        ∀ x symbol, scope.symbols.get? x = some symbol →
          ∃ after, scope'.symbols.get? x = some after ∧ symbol.Becomes after ∧
            ((∀ value span, .assignment x value span ∉ more) → after = symbol) := by
  constructor
  · rw [rdropWhile_missingReturn, (analyze_withBody p body more).2]
    exact List.prefix_append _ _
  · obtain ⟨m, first⟩ := (p.withBody body).function.pass_ofFunction
    obtain ⟨m', whole⟩ := (p.withBody (body ++ more)).function.pass_ofFunction
    rw [analyze_table first, analyze_table whole]
    refine ⟨1, _, _, rfl, rfl, rfl, rfl, ?_⟩
    intro x symbol found
    have held : (p.function.passUpTo body).table.symbolAt? 1 x = some symbol := by
      rw [show (p.function.passUpTo body).table = _ from first]
      exact found
    have kept := checkBody_symbolAt? (p.function.wellFormed_passUpTo body) held p.function.name more
    have inTwo : (p.withBody (body ++ more)).function.pass.table = _ :=
      congrArg Pass.table (p.function.passUpTo_append body more)
    rw [← Pass.andThen_table _ fun t => Pass.each (checkStmt p.function.name) t more, ← inTwo,
      whole] at kept
    exact kept

end Scopewise
