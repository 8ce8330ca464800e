/-
Simulations between a check and another reading of the program.

A reading of a program goes through the same pieces as a check and keeps a
state of its own: a store while the program runs, a context while it is typed.
`Pass.Follows` ties a pass of the check to what the reading makes of the same
piece: nothing of the given kinds is reported exactly if the reading has a
result there, and then the symbols are related to that result.

A simulation is shown one piece at a time; `Follows.andThen` and `Follows.each`
put the pieces together. Behind its first report a check and a reading have
nothing more to do with each other, and nothing is said about that part.
-/

import Scopewise.Proofs.Reports

namespace Scopewise

open Table Diagnostics

variable {α σ : Type}

/-- `Steps next s xs s'`: a reading that goes through `xs` from the state `s`
can end in `s'`. -/
inductive Steps (next : σ → α → σ → Prop) : σ → List α → σ → Prop where
  | nil {s : σ} : Steps next s [] s
  | cons {s middle last : σ} {a : α} {rest : List α} :
      next s a middle → Steps next middle rest last → Steps next s (a :: rest) last

theorem steps_nil_iff {next : σ → α → σ → Prop} {s s' : σ} : Steps next s [] s' ↔ s' = s := by
  constructor
  · rintro ⟨⟩
    rfl
  · rintro rfl
    exact .nil

theorem steps_cons_iff {next : σ → α → σ → Prop} {s s' : σ} {a : α} {rest : List α} :
    Steps next s (a :: rest) s' ↔ ∃ middle, next s a middle ∧ Steps next middle rest s' := by
  constructor
  · rintro (_ | ⟨first, others⟩)
    exact ⟨_, first, others⟩
  · rintro ⟨middle, first, others⟩
    exact .cons first others

/-- A reading by a partial function goes through a list as `foldlM` does. -/
theorem steps_iff_foldlM {next? : σ → α → Option σ} {xs : List α} {s s' : σ} :
    Steps (fun s a s' => next? s a = some s') s xs s' ↔ xs.foldlM next? s = some s' := by
  induction xs generalizing s with
  | nil => simp [steps_nil_iff, eq_comm]
  | cons a rest ih => simp [steps_cons_iff, ih, Option.bind_eq_some_iff]

/-- A pass follows a piece of a reading: nothing of `kinds` is reported exactly
if the reading has a result, and the symbols left are related to the result. -/
structure Pass.Follows (kinds : List DiagnosticKind) (label : String)
    (R : σ → NameMap Symbol → Prop) (pass : Pass) (results : σ → Prop) : Prop where
  free_iff : FreeOf kinds pass.diagnostics ↔ ∃ s, results s
  related : ∀ {s}, results s → ∃ m, pass.table = ofFunction label m ∧ R s m

namespace Pass.Follows

variable {kinds : List DiagnosticKind} {label : String} {R : σ → NameMap Symbol → Prop}
  {pass : Pass}

/-- A pass that reports follows a reading that has no result. -/
theorem of_stuck {results : σ → Prop} (reports : ¬ FreeOf kinds pass.diagnostics)
    (stuck : ∀ s, ¬ results s) : pass.Follows kinds label R results where
  free_iff := ⟨fun free => absurd free reports, fun ⟨s, result⟩ => absurd result (stuck s)⟩
  related {s} result := absurd result (stuck s)

/-- A pass that does not report follows a reading with one result. -/
theorem of_result {results : σ → Prop} {s : σ} {m : NameMap Symbol}
    (free : FreeOf kinds pass.diagnostics) (table : pass.table = ofFunction label m)
    (only : ∀ s', results s' ↔ s' = s) (relates : R s m) : pass.Follows kinds label R results where
  free_iff := ⟨fun _ => ⟨s, (only s).mpr rfl⟩, fun _ => free⟩
  related result := by
    rw [(only _).mp result]
    exact ⟨m, table, relates⟩

/-- One pass after another follows one piece of a reading after another. -/
theorem andThen {results : σ → Prop} {next : Table → Pass} {results' : σ → σ → Prop}
    (first : pass.Follows kinds label R results)
    (second : ∀ {s m}, R s m → (next (ofFunction label m)).Follows kinds label R (results' s)) :
    (pass.andThen next).Follows kinds label R fun last => ∃ s, results s ∧ results' s last := by
  constructor
  · rw [andThen_diagnostics, freeOf_append]
    constructor
    · rintro ⟨free, free'⟩
      obtain ⟨s, result⟩ := first.free_iff.mp free
      obtain ⟨m, table, relates⟩ := first.related result
      rw [table] at free'
      obtain ⟨last, result'⟩ := (second relates).free_iff.mp free'
      exact ⟨last, s, result, result'⟩
    · rintro ⟨last, s, result, result'⟩
      obtain ⟨m, table, relates⟩ := first.related result
      rw [table]
      exact ⟨first.free_iff.mpr ⟨s, result⟩, (second relates).free_iff.mpr ⟨last, result'⟩⟩
  · rintro last ⟨s, result, result'⟩
    obtain ⟨m, table, relates⟩ := first.related result
    rw [andThen_table, table]
    exact (second relates).related result'

theorem congr {results results' : σ → Prop} (follows : pass.Follows kinds label R results)
    (same : ∀ s, results' s ↔ results s) : pass.Follows kinds label R results' where
  free_iff := by simp only [follows.free_iff, same]
  related result := follows.related ((same _).mp result)

/-- A simulation step by step is a simulation of every run. -/
theorem each {step : Table → α → Pass} {next : σ → α → σ → Prop}
    (follows : ∀ {s m}, R s m → ∀ a, (step (ofFunction label m) a).Follows kinds label R (next s a))
    {s : σ} {m : NameMap Symbol} (relates : R s m) (xs : List α) :
    (Pass.each step (ofFunction label m) xs).Follows kinds label R (Steps next s xs) := by
  induction xs generalizing s m with
  | nil => exact of_result freeOf_nil rfl (fun _ => steps_nil_iff) relates
  | cons a rest ih =>
      have both : (Pass.each step (ofFunction label m) (a :: rest)).Follows kinds label R
          fun last => ∃ middle, next s a middle ∧ Steps next middle rest last :=
        (follows relates a).andThen ih
      exact both.congr fun _ => steps_cons_iff

end Pass.Follows

end Scopewise
