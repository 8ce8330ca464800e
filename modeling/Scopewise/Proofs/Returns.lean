/-
Returns.

A check deals with the returns of a function twice. The walk through the body
traces each return with the type of what it returns, and the end of the check
looks through the body for a return statement of any kind. The two agree: the
trace shows the returns of the body one by one, and a return is reported missing
exactly if the trace shows none (`analyze_returns`).

`FunctionDef.returns` lists the returns of a function with the tables that are
reached at them, and `returnsShown` reads them off a trace. A return with a value
has two events, which stand directly behind one another.
-/

import Scopewise.Proofs.Relabelling
import Scopewise.Proofs.Trace

namespace Scopewise

open Diagnostics

/-! ### The returns of a function -/

/-- What a statement returns, if it is a return reached with the table `t`. -/
def Stmt.returns (t : Table) : Stmt → List (Table × Option Expr)
  | .ret value _ => [(t, value)]
  | _ => []

/-- The returns among the statements of a body, from the table `t` on, each with
the table that is reached there. -/
def returnsReached (function : String) (t : Table) : List Stmt → List (Table × Option Expr)
  | [] => []
  | s :: rest => s.returns t ++ returnsReached function (checkStmt function t s).table rest

/-- The returns of a function, in order. -/
def FunctionDef.returns (f : FunctionDef) : List (Table × Option Expr) :=
  returnsReached f.name f.paramsPass.table f.body

/-- The static type of what is returned. -/
def returnedType (t : Table) : Option Expr → Ty
  | none => .void
  | some e => (e.check t).1.type

theorem length_returnsReached (function : String) (t : Table) (body : List Stmt) :
    (returnsReached function t body).length = body.countP Stmt.isReturn := by
  induction body generalizing t with
  | nil => rfl
  | cons s rest ih =>
      rw [returnsReached, List.length_append, ih, List.countP_cons]
      cases s <;> simp [Stmt.returns, Stmt.isReturn, Nat.add_comm]

theorem hasReturn_eq_false_iff {f : FunctionDef} :
    f.hasReturn = false ↔ f.body.countP Stmt.isReturn = 0 := by
  rw [FunctionDef.hasReturn, List.any_eq_false, List.countP_eq_zero]

/-! ### The returns that a trace shows -/

def Event.isReturn (e : Event) : Bool := e.message = "return statement"

def Event.givesValue (e : Event) : Bool := e.message = "return with value"

/-- The event is not about a return. -/
def Event.Quiet (e : Event) : Prop := e.isReturn = false ∧ e.givesValue = false

/-- Each return of the trace: the type that it shows, and whether a value is given
directly before it. What stands before the first event is `previous`. -/
def returnsShown (previous : Option Event) : List Event → List (Option String × Bool)
  | [] => []
  | e :: rest =>
      (if e.isReturn then [(e.text? "ty", previous.any Event.givesValue)] else []) ++
        returnsShown (some e) rest

theorem length_returnsShown (previous : Option Event) (events : List Event) :
    (returnsShown previous events).length = events.countP Event.isReturn := by
  induction events generalizing previous with
  | nil => rfl
  | cons e rest ih =>
      rw [returnsShown, List.length_append, ih, List.countP_cons]
      split <;> simp [Nat.add_comm]

theorem returnsShown_append (previous : Option Event) (events later : List Event) :
    returnsShown previous (events ++ later) =
      returnsShown previous events ++ returnsShown (events.getLast?.or previous) later := by
  induction events generalizing previous with
  | nil => rfl
  | cons e rest ih =>
      have last : (e :: rest).getLast?.or previous = rest.getLast?.or (some e) := by
        rw [List.getLast?_cons, Option.some_or]
        cases rest.getLast? <;> rfl
      rw [List.cons_append, returnsShown, returnsShown, ih, last, List.append_assoc]

/-- It matters only whether a value was given before the first event. -/
theorem returnsShown_congr {previous previous' : Option Event}
    (same : previous.any Event.givesValue = previous'.any Event.givesValue)
    (events : List Event) : returnsShown previous events = returnsShown previous' events := by
  cases events with
  | nil => rfl
  | cons e rest => rw [returnsShown, returnsShown, same]

/-- What a trace shows of a return that is reached with the table `t`. -/
def shownAs (ret : Table × Option Expr) : Option String × Bool :=
  (some (returnedType ret.1 ret.2).text, ret.2.isSome)

/-- The events show the returns, in order and completely. -/
structure Tells (events : List Event) (returns : List (Table × Option Expr)) : Prop where
  shown : returnsShown none events = returns.map shownAs
  /-- No value is given without a return. -/
  values : events.countP Event.givesValue = returns.countP (·.2.isSome)
  settled : events.getLast?.any Event.givesValue = false

namespace Tells

variable {events later : List Event} {returns returns' : List (Table × Option Expr)}

theorem silent (quiet : ∀ e ∈ events, e.Quiet) : Tells events [] where
  shown := by
    rw [List.map_nil, ← List.length_eq_zero_iff, length_returnsShown, List.countP_eq_zero]
    intro e mem
    simp [(quiet e mem).1]
  values := by
    rw [List.countP_nil, List.countP_eq_zero]
    intro e mem
    simp [(quiet e mem).2]
  settled := by
    rw [Option.any_eq_false]
    intro e last
    simp [(quiet e (List.mem_of_getLast? last)).2]

theorem append (tells : Tells events returns) (tells' : Tells later returns') :
    Tells (events ++ later) (returns ++ returns') where
  shown := by
    have fresh :
        events.getLast?.any Event.givesValue = (none : Option Event).any Event.givesValue :=
      tells.settled
    rw [returnsShown_append, Option.or_none, returnsShown_congr fresh, tells.shown, tells'.shown,
      List.map_append]
  values := by rw [List.countP_append, List.countP_append, tells.values, tells'.values]
  settled := by
    rw [List.getLast?_append]
    cases last : later.getLast? with
    | none => exact tells.settled
    | some e =>
        rw [Option.some_or, ← last]
        exact tells'.settled

end Tells

/-! ### The trace of a check -/

theorem Pass.each_quiet {α : Type} {step : Table → α → Pass}
    (quiet : ∀ t a, ∀ e ∈ (step t a).events, e.Quiet) (t : Table) (xs : List α) :
    ∀ e ∈ (Pass.each step t xs).events, e.Quiet := by
  induction xs generalizing t with
  | nil => nofun
  | cons a rest ih =>
      intro e mem
      exact (List.mem_append.mp mem).elim (quiet t a e) (ih _ e)

theorem checkParam_quiet (t : Table) (p : Param) : ∀ e ∈ (checkParam t p).events, e.Quiet := by
  unfold checkParam
  split <;> simp [Event.Quiet, Event.isReturn, Event.givesValue, Event.message]

theorem checkVar_quiet (type : Ty) (t : Table) (v : VarDecl) :
    ∀ e ∈ (checkVar type t v).events, e.Quiet := by
  unfold checkVar
  split
  · nofun
  · split <;> simp [Event.Quiet, Event.isReturn, Event.givesValue, Event.message]

theorem checkAssignment_quiet (t : Table) (target : String) (value : Expr) (span : Span) :
    ∀ e ∈ (checkAssignment t target value span).events, e.Quiet := by
  unfold checkAssignment
  split <;> simp [Event.Quiet, Event.isReturn, Event.givesValue, Event.message]

theorem checkStmt_tells (function : String) (t : Table) (s : Stmt) :
    Tells (checkStmt function t s).events (s.returns t) := by
  cases s with
  | declaration type vars span => exact .silent (Pass.each_quiet (checkVar_quiet _) t vars)
  | assignment target value span => exact .silent (checkAssignment_quiet t target value span)
  | ret value span => cases value <;> exact ⟨rfl, rfl, rfl⟩
  | expr e span => exact .silent nofun

theorem checkBody_tells (function : String) (t : Table) (body : List Stmt) :
    Tells (Pass.each (checkStmt function) t body).events (returnsReached function t body) := by
  induction body generalizing t with
  | nil => exact .silent nofun
  | cons s rest ih => exact (checkStmt_tells function t s).append (ih _)

theorem analyze_tells (p : Program) : Tells (analyze p).events p.function.returns := by
  have opening : Tells [.started, .enteredFunction p.function.name p.function.returnType] [] :=
    .silent (by simp [Event.Quiet, Event.isReturn, Event.givesValue, Event.message])
  have params : Tells p.function.paramsPass.events [] :=
    .silent (Pass.each_quiet checkParam_quiet _ p.function.params)
  have body := checkBody_tells p.function.name p.function.paramsPass.table p.function.body
  have closing : Tells
      [.completed (analyze p).errors.length (analyze p).warnings.length] [] :=
    .silent (by simp [Event.Quiet, Event.isReturn, Event.givesValue, Event.message])
  have whole := (opening.append (params.append body)).append closing
  rw [List.append_nil] at whole
  rwa [analyze_events, FunctionDef.pass, Pass.andThen_events]

theorem countP_isReturn (p : Program) :
    (analyze p).events.countP Event.isReturn = p.function.body.countP Stmt.isReturn := by
  rw [← length_returnsShown none, (analyze_tells p).shown, List.length_map, FunctionDef.returns,
    length_returnsReached]

/-! ### The missing return -/

/-- A result is promised, and the trace shows no return. -/
def Program.LacksReturn (p : Program) : Prop :=
  p.function.returnType ≠ .void ∧ ∀ e ∈ (analyze p).events, e.isReturn = false

theorem lacksReturn_iff {p : Program} :
    p.LacksReturn ↔ p.function.returnType ≠ .void ∧ !p.function.hasReturn := by
  refine and_congr_right fun _ => ?_
  rw [Bool.not_eq_true', hasReturn_eq_false_iff, ← countP_isReturn, List.countP_eq_zero]
  simp only [Bool.not_eq_true]

/-- There are two ways for a check to end. -/
theorem analyze_diagnostics_cases (p : Program) :
    (p.LacksReturn ∧ (analyze p).diagnostics =
        p.function.pass.diagnostics ++ [Finding.missingReturn p.function]) ∨
      (¬ p.LacksReturn ∧ (analyze p).diagnostics = p.function.pass.diagnostics) := by
  rw [analyze_diagnostics, checkResult]
  split
  next lacks => exact .inl ⟨lacksReturn_iff.mpr lacks, rfl⟩
  next returns => exact .inr ⟨returns ∘ lacksReturn_iff.mp, List.append_nil _⟩

theorem FunctionDef.kind_ne_missingReturn {f : FunctionDef} {d : Diagnostic}
    (mem : d ∈ f.pass.diagnostics) : d.kind ≠ .missingReturn := by
  intro same
  exact f.pass_freeOf_missingReturn d mem (by simp [same])

theorem exists_missingReturn_iff (p : Program) :
    (∃ d ∈ (analyze p).diagnostics, d.kind = .missingReturn) ↔ p.LacksReturn := by
  rcases analyze_diagnostics_cases p with ⟨lacks, reported⟩ | ⟨returns, reported⟩
  · refine iff_of_true ⟨Finding.missingReturn p.function, ?_, rfl⟩ lacks
    rw [reported]
    exact List.mem_append_right _ (List.mem_singleton_self _)
  · refine iff_of_false ?_ returns
    rintro ⟨d, mem, kind⟩
    rw [reported] at mem
    exact FunctionDef.kind_ne_missingReturn mem kind

theorem count_missingReturn_le_one (p : Program) :
    Diagnostics.count .missingReturn (analyze p).diagnostics ≤ 1 := by
  have unreported : p.function.pass.diagnostics.countP (·.kind == .missingReturn) = 0 := by
    rw [List.countP_eq_zero]
    intro d mem
    simpa using FunctionDef.kind_ne_missingReturn mem
  rw [Diagnostics.count]
  rcases analyze_diagnostics_cases p with ⟨-, reported⟩ | ⟨-, reported⟩
  · rw [reported, List.countP_append, unreported, Nat.zero_add]
    exact List.countP_le_length
  · rw [reported, unreported]
    exact Nat.zero_le 1

theorem missingReturn_last {p : Program} {d : Diagnostic} (mem : d ∈ (analyze p).diagnostics)
    (kind : d.kind = .missingReturn) :
    (analyze p).diagnostics.getLast? = some d ∧ d.span = some p.function.span := by
  rcases analyze_diagnostics_cases p with ⟨-, reported⟩ | ⟨-, reported⟩
  · rw [reported] at mem ⊢
    rcases List.mem_append.mp mem with mem | mem
    · exact absurd kind (FunctionDef.kind_ne_missingReturn mem)
    · rw [List.mem_singleton.mp mem, List.getLast?_concat]
      exact ⟨rfl, rfl⟩
  · rw [reported] at mem
    exact absurd kind (FunctionDef.kind_ne_missingReturn mem)

/-- The program with another result type. -/
def Program.withReturnType (p : Program) (returnType : TypeName) : Program :=
  { p with function := { p.function with returnType } }

/-- The check of the parameters and the body does not look at the result type. -/
theorem Program.pass_withReturnType (p : Program) (type : TypeName) :
    (p.withReturnType type).function.pass = p.function.pass := rfl

theorem analyze_table_withReturnType (p : Program) (type : TypeName) :
    (analyze (p.withReturnType type)).table = (analyze p).table := by
  obtain ⟨m, table⟩ := p.function.pass_ofFunction
  rw [analyze_table table]
  exact analyze_table (p := p.withReturnType type) table

theorem without_missingReturn (p : Program) :
    without [.missingReturn] (analyze p).diagnostics = p.function.pass.diagnostics := by
  have pass := without_eq_self p.function.pass_freeOf_missingReturn
  rcases analyze_diagnostics_cases p with ⟨-, reported⟩ | ⟨-, reported⟩
  · rw [reported, without_append, pass]
    exact List.append_nil _
  · rw [reported, pass]

/-- **The trace and the search for a return agree.** The trace shows the returns
of the body one by one, each with the type of its expression in the table that is
reached there, and a value directly before it exactly if there is an expression. A
return is reported missing exactly if the function promises a result and the trace
shows no return; it is reported once, at the end, at the place of the function.
The result type decides about nothing else. -/
theorem analyze_returns (p : Program) :
    (analyze p).events.countP Event.isReturn = p.function.body.countP Stmt.isReturn ∧
      returnsShown none (analyze p).events = p.function.returns.map
        (fun (t, value) => (some (returnedType t value).text, value.isSome)) ∧
      (analyze p).events.countP Event.givesValue = p.function.returns.countP (·.2.isSome) ∧
      ((∃ d ∈ (analyze p).diagnostics, d.kind = .missingReturn) ↔
        p.function.returnType ≠ .void ∧ ∀ e ∈ (analyze p).events, e.isReturn = false) ∧
      Diagnostics.count .missingReturn (analyze p).diagnostics ≤ 1 ∧
      (∀ d ∈ (analyze p).diagnostics, d.kind = .missingReturn →
        (analyze p).diagnostics.getLast? = some d ∧ d.span = some p.function.span) ∧
      ∀ type, (analyze (p.withReturnType type)).table = (analyze p).table ∧
        without [.missingReturn] (analyze (p.withReturnType type)).diagnostics =
          without [.missingReturn] (analyze p).diagnostics := by
  have tells := analyze_tells p
  refine ⟨countP_isReturn p, tells.shown, tells.values, exists_missingReturn_iff p,
    count_missingReturn_le_one p, fun d => missingReturn_last, fun type =>
      ⟨analyze_table_withReturnType p type, ?_⟩⟩
  rw [without_missingReturn, without_missingReturn, p.pass_withReturnType]

/-- `int f(bool b) { return; return b + x; }`: both returns are traced, whatever
is wrong with the second. -/
example :
    let p : Program :=
      { function :=
          { returnType := .int
            name := "f"
            params := [{ type := .bool, name := "b" }]
            body :=
              [.ret none .unknown,
                .ret (some (.binary (.var "b" .unknown) .plus (.var "x" .unknown) .unknown))
                  .unknown] } }
    returnsShown none (analyze p).events = [(some "void", false), (some "error", true)] := by
  decide

end Scopewise
