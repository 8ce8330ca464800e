/-
The calls that a check makes on its table.

A check does not look at the answers to its calls: a refused declaration, a
value for a name that is not found and a scope that cannot be left would go by
in silence. None of these ever happens (`analyze_calls_succeed`).

A `RecordedPass` is a pass that keeps its calls, each with its answer. It gets at
the table through `Table.perform` alone, and by its type it cannot have changed
the table otherwise. `FunctionDef.recorded` is the check as such a pass. Without
its calls it is the check itself (`RecordedPass.Records`), so the calls of a
check are those that its record has.

A declaration or an assignment is called for behind a look at the table, and
only expressions are checked between the two, which make no calls. So every call
finds the table as the look at it did.
-/

import Scopewise.Proofs.History
import Scopewise.Proofs.ScopeStack
import Scopewise.Proofs.Trace

namespace Scopewise

open Table

/-! ### Passes that keep their calls -/

/-- The operations of a run, each with its answer. -/
def Table.transcript (t : Table) (ops : List Operation) : List (Operation × Answer) :=
  (t.history ops).map fun (met, op) => (op, (met.perform op).1)

theorem Table.transcript_append (t : Table) (ops later : List Operation) :
    t.transcript (ops ++ later) = t.transcript ops ++ (t.run ops).transcript later := by
  rw [transcript, history_append, List.map_append]
  rfl

/-- A pass on the table `t` that keeps its calls. The answers are those of the
table, and the calls leave the table that the pass leaves. -/
structure RecordedPass (t : Table) extends Pass where
  calls : List (Operation × Answer)
  answered : calls = t.transcript (calls.map (·.1))
  run_calls : table = t.run (calls.map (·.1))

namespace RecordedPass

variable {t : Table} {α : Type}

/-- What is called for, without the answers. -/
def operations (recorded : RecordedPass t) : List Operation := recorded.calls.map (·.1)

/-- A pass without calls. -/
def silent (t : Table) (diagnostics : List Diagnostic) (events : List Event) : RecordedPass t where
  table := t
  diagnostics := diagnostics
  events := events
  calls := []
  answered := rfl
  run_calls := rfl

/-- A pass with one call. Its events may depend on the answer. -/
def call (t : Table) (op : Operation) (diagnostics : List Diagnostic)
    (events : Answer → List Event) : RecordedPass t where
  table := (t.perform op).2
  diagnostics := diagnostics
  events := events (t.perform op).1
  calls := [(op, (t.perform op).1)]
  answered := rfl
  run_calls := rfl

theorem call_toPass (t : Table) (op : Operation) (diagnostics : List Diagnostic)
    (events : Answer → List Event) :
    (call t op diagnostics events).toPass =
      { table := (t.perform op).2, diagnostics, events := events (t.perform op).1 } :=
  rfl

/-- Goes on with `next` on the table that was left. -/
def andThen (first : RecordedPass t) (next : ∀ t, RecordedPass t) : RecordedPass t where
  toPass := first.toPass.andThen fun t => (next t).toPass
  calls := first.calls ++ (next first.table).calls
  answered := by
    rw [List.map_append, transcript_append, ← first.run_calls, ← first.answered,
      ← (next first.table).answered]
  run_calls := by
    rw [List.map_append, run_append, ← first.run_calls, ← (next first.table).run_calls]
    rfl

/-- Runs `step` on each element in turn. -/
def each (step : ∀ t, α → RecordedPass t) (t : Table) : List α → RecordedPass t
  | [] => silent t [] []
  | a :: rest => (step t a).andThen fun t => each step t rest

theorem operations_andThen (first : RecordedPass t) (next : ∀ t, RecordedPass t) :
    (first.andThen next).operations = first.operations ++ (next first.table).operations :=
  List.map_append

theorem exists_call {recorded : RecordedPass t} {op : Operation}
    (mem : op ∈ recorded.operations) : ∃ answer, (op, answer) ∈ recorded.calls := by
  obtain ⟨⟨_, answer⟩, made, rfl⟩ := List.mem_map.mp mem
  exact ⟨answer, made⟩

/-- Every call is made on account of one of the elements. -/
theorem mem_calls_each {step : ∀ t, α → RecordedPass t} {xs : List α} {call : Operation × Answer}
    (mem : call ∈ (each step t xs).calls) : ∃ t', ∃ a ∈ xs, call ∈ (step t' a).calls := by
  induction xs generalizing t with
  | nil => cases mem
  | cons a rest ih =>
      rcases List.mem_append.mp mem with mem | mem
      · exact ⟨t, a, List.mem_cons_self .., mem⟩
      · obtain ⟨t', b, among, mem⟩ := ih mem
        exact ⟨t', b, List.mem_cons_of_mem _ among, mem⟩

end RecordedPass

/-! ### The check as a recorded pass -/

/-- A parameter is declared, unless the scope has its name. -/
def Param.recorded (t : Table) (p : Param) : RecordedPass t :=
  match t.lookupLocal? p.name with
  | some existing => .silent t [Finding.duplicateParam p existing] []
  | none =>
      let type := Ty.ofTypeName p.type
      .call t (.declareWithValue p.name type type.default p.span.start) []
        fun _ => [.declaredParam p.name type]

/-- A variable is declared, with its initial value if it has one, unless the
scope has its name. -/
def VarDecl.recorded (type : Ty) (t : Table) (v : VarDecl) : RecordedPass t :=
  match t.lookupLocal? v.name with
  | some existing => .silent t [Finding.duplicateVar v existing] []
  | none =>
      match v.init with
      | some init =>
          let (outcome, report) := init.check t
          .call t (.declareWithValue v.name type outcome.value v.span.start)
            (report ++ checkStore type outcome.type v.name init.span)
            fun _ => [.declaredInitialized v.name outcome.value]
      | none =>
          .call t (.declare v.name type v.span.start) [Finding.declaredUninitialized v]
            fun _ => [.declaredUninitialized v.name type]

/-- A value is stored where its target is found. Returns and expressions make no
calls. -/
def Stmt.recorded (function : String) (t : Table) : Stmt → RecordedPass t
  | .declaration type vars _ => .each (VarDecl.recorded (.ofTypeName type)) t vars
  | .assignment target value span =>
      match t.type? target with
      | none => .silent t [Finding.notDeclared target span] []
      | some type =>
          let (outcome, report) := value.check t
          .call t (.assign target outcome.value)
            (report ++ checkStore type outcome.type target value.span)
            fun _ => [.assigned target outcome.value]
  | .ret none _ => .silent t [] [.returned function .void]
  | .ret (some value) _ =>
      let (outcome, report) := value.check t
      .silent t report [.returnedValue outcome.value, .returned function outcome.type]
  | .expr e _ => .silent t (e.check t).2 []

/-- Leaves the scope of a function. This is the one answer that is looked at. -/
def RecordedPass.leave (t : Table) : RecordedPass t :=
  .call t .exit [] fun
    | .refused error => [.scopeNotLeft error]
    | _ => []

/-- The check of a function inside its scope: the scope is entered, and the
parameters and the statements are gone through. -/
def FunctionDef.recordedInside (t : Table) (f : FunctionDef) : RecordedPass t :=
  let opened : RecordedPass t :=
    .call t (.enter (functionLabel f.name)) [] fun _ => [.enteredFunction f.name f.returnType]
  ((opened.andThen fun t => .each Param.recorded t f.params).andThen
    fun t => .each (Stmt.recorded f.name) t f.body).andThen
    fun t => .silent t (checkResult f) []

/-- The check of a function. -/
def FunctionDef.recorded (t : Table) (f : FunctionDef) : RecordedPass t :=
  (f.recordedInside t).andThen .leave

/-- The check of a program, with its calls. -/
def Program.recorded (p : Program) : RecordedPass .new := p.function.recorded .new

/-- All calls of a check. -/
def Program.calls (p : Program) : List Operation := p.recorded.operations

/-- The name that an operation declares or assigns. -/
def Operation.subject? : Operation → Option String
  | .declare name .. | .declareWithValue name .. | .assign name _ => some name
  | .enter _ | .exit | .reset => none

/-! ### What a check does to the table

These hold for every table, also where the calls fail. -/

/-- The recorded pass is `pass` with its calls. They leave the table that the
pass leaves, and each of them has its event, whatever it is answered; so none is
passed over. -/
structure RecordedPass.Records {t : Table} (recorded : RecordedPass t) (pass : Pass) : Prop where
  erases : recorded.toPass = pass
  table : pass.table = t.run recorded.operations
  logged : pass.events.filterMap Event.subject? =
    recorded.operations.filterMap Operation.subject?
  /-- A scope that cannot be left is in the trace. -/
  refusals : ∀ error, .scopeNotLeft error ∈ pass.events ↔
    (.exit, .refused error) ∈ recorded.calls

namespace RecordedPass.Records

variable {t : Table} {pass : Pass}

/-- A pass without calls that is about no name. -/
theorem silent {diagnostics : List Diagnostic} {events : List Event}
    (noSubject : events.filterMap Event.subject? = [])
    (noRefusal : ∀ error, .scopeNotLeft error ∉ events) :
    (RecordedPass.silent t diagnostics events).Records { table := t, diagnostics, events } where
  erases := rfl
  table := rfl
  logged := noSubject
  refusals error := by simp [RecordedPass.silent, noRefusal]

/-- A pass that does nothing but report. -/
theorem report {diagnostics : List Diagnostic} :
    (RecordedPass.silent t diagnostics []).Records { table := t, diagnostics } :=
  .silent rfl (by simp)

/-- A pass with one call. -/
theorem call {op : Operation} {diagnostics : List Diagnostic} {events : Answer → List Event}
    (logged : (events (t.perform op).1).filterMap Event.subject? = op.subject?.toList)
    (refusals : ∀ error, .scopeNotLeft error ∈ events (t.perform op).1 ↔
      op = .exit ∧ (t.perform op).1 = .refused error) :
    (RecordedPass.call t op diagnostics events).Records
      { table := (t.perform op).2, diagnostics, events := events (t.perform op).1 } where
  erases := rfl
  table := rfl
  logged := by
    rw [logged]
    cases subject : op.subject? <;> simp [RecordedPass.call, operations, subject]
  refusals error := by
    rw [refusals]
    simp [RecordedPass.call, eq_comm]

/-- A pass that declares or assigns a name. -/
theorem about {op : Operation} {name : String} (subject : op.subject? = some name)
    {diagnostics : List Diagnostic} {e : Event} (told : e.subject? = some name) {left : Table}
    (leaves : left = (t.perform op).2) :
    (RecordedPass.call t op diagnostics fun _ => [e]).Records
      { table := left, diagnostics, events := [e] } := by
  subst leaves
  refine .call (by simp [subject, told]) fun error => ?_
  have otherEvent : .scopeNotLeft error ≠ e := by
    rintro rfl
    cases told
  have otherCall : op ≠ .exit := by
    rintro rfl
    cases subject
  simp [otherEvent, otherCall]

theorem andThen {first : RecordedPass t} {next : ∀ t, RecordedPass t} {plain : Table → Pass}
    (before : first.Records pass) (after : ∀ t, (next t).Records (plain t)) :
    (first.andThen next).Records (pass.andThen plain) := by
  obtain rfl := before.erases
  constructor
  · exact congrArg first.toPass.andThen (funext fun t => (after t).erases)
  · rw [Pass.andThen_table, (after _).table, operations_andThen, run_append, ← before.table]
  · rw [Pass.andThen_events, List.filterMap_append, before.logged, (after _).logged,
      operations_andThen, List.filterMap_append]
  · intro error
    rw [Pass.andThen_events, List.mem_append, before.refusals, (after _).refusals]
    exact List.mem_append.symm

theorem each {α : Type} {step : ∀ t, α → RecordedPass t} {plain : Table → α → Pass}
    (steps : ∀ t a, (step t a).Records (plain t a)) (t : Table) (xs : List α) :
    (RecordedPass.each step t xs).Records (Pass.each plain t xs) := by
  induction xs generalizing t with
  | nil => exact .report
  | cons a rest ih => exact (steps t a).andThen ih

end RecordedPass.Records

theorem Table.orSame_eq_answering (t : Table) (change : Except ScopeError Table)
    (success : Answer) : t.orSame change = (t.answering success change).2 := by
  cases change <;> rfl

theorem Table.getD_assign? (t : Table) (name : String) (value : Option Constant) :
    (t.assign? name value).getD t = (t.perform (.assign name value)).2 := by
  rw [perform]
  cases t.assign? name value <;> rfl

theorem Param.recorded_records (t : Table) (p : Param) :
    (p.recorded t).Records (checkParam t p) := by
  unfold Param.recorded checkParam
  cases t.lookupLocal? p.name with
  | some existing => exact .report
  | none => exact .about rfl rfl (t.orSame_eq_answering _ _)

theorem VarDecl.recorded_records (type : Ty) (t : Table) (v : VarDecl) :
    (v.recorded type t).Records (checkVar type t v) := by
  unfold VarDecl.recorded checkVar
  cases t.lookupLocal? v.name with
  | some existing => exact .report
  | none => cases v.init <;> exact .about rfl rfl (t.orSame_eq_answering _ _)

/-- A statement changes the table by its calls and by nothing else. -/
theorem Stmt.recorded_records (function : String) (t : Table) (s : Stmt) :
    (s.recorded function t).Records (checkStmt function t s) := by
  cases s with
  | declaration type vars span => exact .each (VarDecl.recorded_records _) t vars
  | assignment target value span =>
      rw [Stmt.recorded, checkStmt, checkAssignment]
      cases t.type? target with
      | none => exact .report
      | some type => exact .about rfl rfl (t.getD_assign? target _)
  | ret value span => cases value <;> exact .silent rfl (by simp)
  | expr e span => exact .report

theorem RecordedPass.leave_records (t : Table) : (leave t).Records (leaveFunction t) := by
  have left : leaveFunction t = (leave t).toPass := by
    rw [leave, call_toPass, leaveFunction, perform]
    cases t.exit <;> rfl
  rw [left]
  refine .call ?_ fun error => ?_
  · cases (t.perform .exit).1 <;> rfl
  · cases (t.perform .exit).1 <;> simp [eq_comm]

theorem FunctionDef.recordedInside_records (t : Table) (f : FunctionDef) :
    (f.recordedInside t).Records
      (((({ table := t.enter (functionLabel f.name)
            events := [.enteredFunction f.name f.returnType] } : Pass).andThen
        fun t => Pass.each checkParam t f.params).andThen
        fun t => Pass.each (checkStmt f.name) t f.body).andThen
        fun t => { table := t, diagnostics := checkResult f }) := by
  refine .andThen (.andThen (.andThen (.call rfl ?_) ?_) ?_) ?_
  · simp
  · exact fun t => .each Param.recorded_records t f.params
  · exact fun t => .each (Stmt.recorded_records f.name) t f.body
  · exact fun t => .report

/-- Without its calls the recorded check of a function is the check. -/
theorem FunctionDef.recorded_records (t : Table) (f : FunctionDef) :
    (f.recorded t).Records (checkFunction t f) :=
  (f.recordedInside_records t).andThen RecordedPass.leave_records

/-- The calls of a check leave its table. -/
theorem analyze_run (p : Program) : (analyze p).table = Table.new.run p.calls :=
  (p.function.recorded_records .new).table

/-- The trace has the calls one by one. -/
theorem analyze_logged (p : Program) :
    (analyze p).events.filterMap Event.subject? = p.calls.filterMap Operation.subject? := by
  rw [Program.calls, Program.recorded, ← (p.function.recorded_records .new).logged]
  show (_ :: (_ ++ [_])).filterMap Event.subject? = _
  rw [List.filterMap_cons_none rfl, List.filterMap_append, List.filterMap_cons_none rfl,
    List.filterMap_nil, List.append_nil]

/-! ### Success -/

/-- Every call is answered with success. -/
def RecordedPass.Succeeds {t : Table} (recorded : RecordedPass t) : Prop :=
  ∀ call ∈ recorded.calls, call.2.failed = false

namespace RecordedPass.Succeeds

variable {t : Table}

theorem silent {diagnostics : List Diagnostic} {events : List Event} :
    (RecordedPass.silent t diagnostics events).Succeeds :=
  nofun

theorem call {op : Operation} {diagnostics : List Diagnostic} {events : Answer → List Event}
    (succeeds : (t.perform op).1.failed = false) :
    (RecordedPass.call t op diagnostics events).Succeeds := by
  intro call mem
  rw [List.mem_singleton.mp mem]
  exact succeeds

theorem andThen {first : RecordedPass t} {next : ∀ t, RecordedPass t} (before : first.Succeeds)
    (after : (next first.table).Succeeds) : (first.andThen next).Succeeds := by
  intro call mem
  exact (List.mem_append.mp mem).elim (before call) (after call)

theorem each {α : Type} {step : ∀ t, α → RecordedPass t}
    (steps : ∀ t a, (step t a).Succeeds) (t : Table) (xs : List α) :
    (RecordedPass.each step t xs).Succeeds := by
  intro call mem
  obtain ⟨t', a, -, mem⟩ := mem_calls_each mem
  exact steps t' a call mem

end RecordedPass.Succeeds

/-- A name that the scope does not have can be declared. -/
theorem Table.perform_declaration {t : Table} {op : Operation} {symbol : Symbol}
    (declares : op.symbol? = some symbol) (fresh : t.lookupLocal? symbol.name = none) :
    (t.perform op).1.failed = false := by
  have step := Step.perform t op
  generalize (t.perform op).1 = answer, (t.perform op).2 = t' at step
  cases step with
  | entered | left | declared | assigned | cleared => rfl
  | duplicate declares' found =>
      rw [declares] at declares'
      cases declares'
      rw [lookupLocal?, found] at fresh
      cases fresh
  | outermost | missed => cases declares

/-- A value can be stored in a name that is found. -/
theorem Table.perform_assign {t : Table} {name : String} {type : Ty}
    (found : t.type? name = some type) (value : Option Constant) :
    (t.perform (.assign name value)).1.failed = false := by
  have step := Step.perform t (.assign name value)
  generalize (t.perform (.assign name value)).1 = answer, (t.perform _).2 = t' at step
  cases step with
  | assigned => rfl
  | missed absent => simp [type?, lookup?, absent] at found
  | declared declares | duplicate declares => cases declares

/-! The calls inside the scope of a function. -/

section Inside

variable {t : Table} {call : Operation × Answer}

/-- A parameter is declared in a scope that does not have its name. -/
theorem Param.mem_calls {p : Param} (mem : call ∈ (p.recorded t).calls) :
    call.2.failed = false ∧ ∃ symbol, call.1.symbol? = some symbol := by
  unfold Param.recorded at mem
  split at mem
  case h_1 => cases mem
  case h_2 fresh =>
    rw [List.mem_singleton.mp mem]
    exact ⟨perform_declaration rfl fresh, _, rfl⟩

theorem VarDecl.mem_calls {type : Ty} {v : VarDecl} (mem : call ∈ (v.recorded type t).calls) :
    call.2.failed = false ∧ ∃ symbol, call.1.symbol? = some symbol := by
  unfold VarDecl.recorded at mem
  split at mem
  case h_1 => cases mem
  case h_2 fresh =>
    -- The initial value is checked behind the look at the scope, and leaves it as it is.
    split at mem <;>
      · rw [List.mem_singleton.mp mem]
        exact ⟨perform_declaration rfl fresh, _, rfl⟩

/-- A statement declares symbols, or it assigns a value to its target. Both
succeed. -/
theorem Stmt.mem_calls {function : String} {s : Stmt}
    (mem : call ∈ (s.recorded function t).calls) :
    call.2.failed = false ∧
      ((∃ symbol, call.1.symbol? = some symbol) ∨
        ∃ target value span stored, s = .assignment target value span ∧
          call.1 = .assign target stored) := by
  cases s with
  | declaration type vars span =>
      obtain ⟨t', v, -, mem⟩ := RecordedPass.mem_calls_each mem
      exact (VarDecl.mem_calls mem).imp_right .inl
  | assignment target value span =>
      rw [Stmt.recorded] at mem
      split at mem
      case h_1 => cases mem
      case h_2 found =>
        rw [List.mem_singleton.mp mem]
        exact ⟨perform_assign found _, .inr ⟨target, value, span, _, rfl, rfl⟩⟩
  | ret value span => cases value <;> cases mem
  | expr e span => cases mem

theorem Param.exit_notMem_operations (p : Param) : .exit ∉ (p.recorded t).operations := by
  intro mem
  obtain ⟨answer, made⟩ := RecordedPass.exists_call mem
  obtain ⟨-, _, declares⟩ := Param.mem_calls made
  cases declares

theorem Stmt.exit_notMem_operations (function : String) (s : Stmt) :
    .exit ∉ (s.recorded function t).operations := by
  intro mem
  obtain ⟨answer, made⟩ := RecordedPass.exists_call mem
  rcases Stmt.mem_calls made with ⟨-, ⟨_, declares⟩ | ⟨_, _, _, _, -, assigns⟩⟩
  · cases declares
  · cases assigns

end Inside

theorem FunctionDef.recordedInside_succeeds (t : Table) (f : FunctionDef) :
    (f.recordedInside t).Succeeds := by
  refine .andThen (.andThen (.andThen (.call rfl) ?_) ?_) .silent
  · exact .each (fun _ _ _ mem => (Param.mem_calls mem).1) _ f.params
  · exact .each (fun _ _ _ mem => (Stmt.mem_calls mem).1) _ f.body

theorem Program.recorded_succeeds (p : Program) : p.recorded.Succeeds := by
  have leaves : (p.function.pass.table.perform .exit).1.failed = false := by
    obtain ⟨m, inside⟩ := p.function.pass_ofFunction
    rw [inside, perform, exit_ofFunction]
    rfl
  have inside : (p.function.recordedInside .new).table = p.function.pass.table := by
    rw [(p.function.recordedInside_records .new).erases]
    rfl
  rw [← inside] at leaves
  exact (p.function.recordedInside_succeeds .new).andThen (.call leaves)

/-- The scope of the function is never found closed. -/
theorem analyze_leaves_scope (p : Program) (error : ScopeError) :
    .scopeNotLeft error ∉ (analyze p).events := by
  intro mem
  have inside : .scopeNotLeft error ∈ (checkFunction .new p.function).events := by
    simpa [analyze] using mem
  have refused := ((p.function.recorded_records .new).refusals error).mp inside
  cases p.recorded_succeeds _ refused

/-- Each call finds the table on which its answer was recorded. -/
theorem Program.calls_succeed (p : Program) :
    ∀ call ∈ Table.new.history p.calls, (call.1.perform call.2).1.failed = false := by
  intro call mem
  have recorded : (call.2, (call.1.perform call.2).1) ∈ p.recorded.calls := by
    rw [p.recorded.answered]
    exact List.mem_map_of_mem mem
  exact p.recorded_succeeds _ recorded

/-- **No call fails.** The recorded check is the check, with its calls and their
answers kept. The table of a check is what its calls leave of a new one, and the
trace names them one by one. On the table that it meets, each of them is answered
with success: no declaration is refused, the target of every assignment is found,
and the scope of the function can be left in the end. Every part of a check
changes the table by its calls and by nothing else, so expressions do not change
it at all. -/
theorem analyze_calls_succeed (p : Program) :
    p.recorded.toPass = checkFunction .new p.function ∧
      p.recorded.calls = Table.new.transcript p.calls ∧
      (∀ call ∈ p.recorded.calls, call.2.failed = false) ∧
      (analyze p).table = Table.new.run p.calls ∧
      (analyze p).events.filterMap Event.subject? = p.calls.filterMap Operation.subject? ∧
      (∀ call ∈ Table.new.history p.calls, (call.1.perform call.2).1.failed = false) ∧
      (∀ error, .scopeNotLeft error ∉ (analyze p).events) ∧
      (∀ t (q : Param), (q.recorded t).Records (checkParam t q) ∧
        .exit ∉ (q.recorded t).operations) ∧
      (∀ function t (s : Stmt), (s.recorded function t).Records (checkStmt function t s) ∧
        .exit ∉ (s.recorded function t).operations) ∧
      ∀ function t e span, (checkStmt function t (.expr e span)).table = t ∧
        (checkStmt function t (.ret (some e) span)).table = t :=
  ⟨(p.function.recorded_records .new).erases, p.recorded.answered, p.recorded_succeeds,
    analyze_run p, analyze_logged p, p.calls_succeed, analyze_leaves_scope p,
    fun t q => ⟨q.recorded_records t, q.exit_notMem_operations⟩,
    fun function t s => ⟨s.recorded_records function t, s.exit_notMem_operations function⟩,
    fun function t e span =>
      ⟨(Stmt.recorded_records function t (.expr e span)).table,
        (Stmt.recorded_records function t (.ret (some e) span)).table⟩⟩

/-- `f(n, n) { int x, n; y = x; x = n + 1; return x; }`: the second `n` among the
parameters, the variable `n` and the assignment to `y` make no calls. -/
example :
    (Program.recorded
      { function :=
          { returnType := .int
            name := "f"
            params := [{ type := .int, name := "n" }, { type := .bool, name := "n" }]
            body :=
              [.declaration .int [{ name := "x" }, { name := "n" }] .unknown,
                .assignment "y" (.var "x" .unknown) .unknown,
                .assignment "x" (.binary (.var "n" .unknown) .plus (.number 1 .unknown) .unknown)
                  .unknown,
                .ret (some (.var "x" .unknown)) .unknown] } }).calls =
      [(.enter "function_f", .entered 1),
        (.declareWithValue "n" .int (some (.int 0)) .unknown, .declared),
        (.declare "x" .int .unknown, .declared),
        (.assign "x" (some (.int 1)), .assigned true),
        (.exit, .left 1)] := by
  decide

end Scopewise
