/-
The trace tells the symbols.

A check leaves two things behind that are kept apart while it runs: the trace, to
which events are only ever added, and the symbols, which change. Yet the one can
be read off the other. Every name of the function is declared by one event of the
trace and is assigned only behind it, and going through the events in order gives
the values of all symbols (`analyze_trace_replays`).

An event is read here as a log shows it, by its message and the texts of its
fields (`Event.declares?`, `Event.assigns?`, `Event.value?`). `Replays` is what
holds of the events and the symbols at each point of a check.
-/

import Scopewise.Analysis.Summary
import Scopewise.Proofs.FunctionTable

namespace Scopewise

open Table

/-! ### Reading events -/

namespace Event

/-- The text of a field. -/
def text? (e : Event) (field : String) : Option String :=
  (e.fields.lookup field).map EventField.render

/-- The messages of the events that declare a name. -/
def declaring : List String :=
  ["declared parameter", "declared and initialized variable", "declared uninitialized variable"]

/-- The name that an event declares. -/
def declares? (e : Event) : Option String :=
  if e.message ∈ declaring then e.text? "name" else none

/-- The name that an event assigns. -/
def assigns? (e : Event) : Option String :=
  if e.message = "assigned" then e.text? "name" else none

/-- The name that an event is about, if it declares or assigns one. -/
def subject? (e : Event) : Option String := e.declares?.or e.assigns?

/-- The text of the value that the name has behind the event. A parameter starts
at the default of its type, and a variable without an initial value at none. -/
def value? (e : Event) : Option String :=
  if e.message = "declared parameter" then
    ((e.text? "ty").bind Ty.ofText?).map fun type => Constant.textOf type.default
  else if e.message = "declared uninitialized variable" then some "null"
  else e.text? "value"

/-- What an event makes of the values so far. -/
def apply (values : NameMap String) (e : Event) : NameMap String :=
  match e.subject?, e.value? with
  | some name, some text => values.insert name text
  | _, _ => values

end Event

/-- The values that the events leave, one after the other. -/
def replay (events : List Event) : NameMap String := events.foldl Event.apply .empty

/-- The last event that declares or assigns `x`. -/
def lastAbout (x : String) (events : List Event) : Option Event :=
  (events.filter (·.subject? = some x)).getLast?

namespace Event

/-- The event declares `x`, with a value of the given text. -/
structure Declares (x text : String) (e : Event) : Prop where
  declares : e.declares? = some x
  assigns : e.assigns? = none
  value : e.value? = some text

/-- The event assigns a value of the given text to `x`. -/
structure Assigns (x text : String) (e : Event) : Prop where
  declares : e.declares? = none
  assigns : e.assigns? = some x
  value : e.value? = some text

theorem declares_declaredParam (x : String) (type : Ty) :
    (declaredParam x type).Declares x (Constant.textOf type.default) := by
  refine ⟨rfl, rfl, ?_⟩
  show ((some type.text).bind Ty.ofText?).map _ = _
  rw [Option.bind_some, Ty.ofText?_text, Option.map_some]

theorem declares_declaredInitialized (x : String) (value : Option Constant) :
    (declaredInitialized x value).Declares x (Constant.textOf value) :=
  ⟨rfl, rfl, rfl⟩

theorem declares_declaredUninitialized (x : String) (type : Ty) :
    (declaredUninitialized x type).Declares x (Constant.textOf none) :=
  ⟨rfl, rfl, rfl⟩

theorem assigns_assigned (x : String) (value : Option Constant) :
    (assigned x value).Assigns x (Constant.textOf value) :=
  ⟨rfl, rfl, rfl⟩

end Event

theorem replay_concat (events : List Event) (e : Event) :
    replay (events ++ [e]) = e.apply (replay events) := by
  rw [replay, List.foldl_append]
  rfl

theorem lastAbout_concat (x : String) (events : List Event) (e : Event) :
    lastAbout x (events ++ [e]) = if e.subject? = some x then some e else lastAbout x events := by
  by_cases about : e.subject? = some x <;> simp [lastAbout, about]

/-! ### Events and symbols -/

/-- The events tell the symbols. -/
structure Replays (events : List Event) (m : NameMap Symbol) : Prop where
  declared_once : ∀ x,
    events.countP (fun e => e.declares? = some x) = if m.contains x then 1 else 0
  assigned_known : ∀ e ∈ events, ∀ x, e.assigns? = some x → m.contains x = true
  /-- No name is assigned before it is declared. -/
  in_order : events.Pairwise fun e later => ∀ x, e.assigns? = some x → later.declares? ≠ some x
  values : replay events = m.map fun s => Constant.textOf s.value
  /-- A symbol is not initialized as long as it is declared without a value and
  nothing else. -/
  initialized : ∀ x symbol, m.get? x = some symbol → ∃ last, lastAbout x events = some last ∧
    (symbol.initialized = true ↔ last.message ≠ "declared uninitialized variable")

namespace Replays

variable {events : List Event} {m : NameMap Symbol} {e : Event} {x : String}

theorem empty : Replays [] .empty where
  declared_once _ := rfl
  assigned_known := nofun
  in_order := .nil
  values := rfl
  initialized := nofun

/-- One more event: it may declare a name that has no symbol yet, and assign a
name that has one. -/
theorem concat (replays : Replays events m) {m' : NameMap Symbol}
    (contains : ∀ y, m'.contains y = (m.contains y || e.declares? = some y))
    (fresh : ∀ y, e.declares? = some y → m.contains y = false)
    (known : ∀ y, e.assigns? = some y → m'.contains y = true)
    (values : replay (events ++ [e]) = m'.map fun s => Constant.textOf s.value)
    (initialized : ∀ y s, m'.get? y = some s → ∃ last, lastAbout y (events ++ [e]) = some last ∧
      (s.initialized = true ↔ last.message ≠ "declared uninitialized variable")) :
    Replays (events ++ [e]) m' := by
  refine ⟨?_, ?_, ?_, values, initialized⟩
  · intro y
    rw [List.countP_append, replays.declared_once, List.countP_singleton, contains]
    by_cases declares : e.declares? = some y
    · simp [declares, fresh y declares]
    · simp [declares]
  · intro e' mem y assigns
    rcases List.mem_append.mp mem with mem | mem
    · rw [contains, replays.assigned_known e' mem y assigns, Bool.true_or]
    · rw [List.mem_singleton.mp mem] at assigns
      exact known y assigns
  · refine List.pairwise_append.mpr ⟨replays.in_order, List.pairwise_singleton _ _, ?_⟩
    intro e' before later mem y assigns declares
    rw [List.mem_singleton.mp mem] at declares
    have unknown := fresh y declares
    rw [replays.assigned_known e' before y assigns] at unknown
    cases unknown

/-- An event that is about no name changes nothing. -/
theorem silent (replays : Replays events m) (noSubject : e.subject? = none) :
    Replays (events ++ [e]) m := by
  obtain ⟨noDeclaration, noAssignment⟩ := Option.or_eq_none_iff.mp noSubject
  refine replays.concat ?_ ?_ ?_ ?_ ?_
  · simp [noDeclaration]
  · simp [noDeclaration]
  · simp [noAssignment]
  · rw [replay_concat, Event.apply, noSubject, replays.values]
  · intro y symbol found
    rw [lastAbout_concat, if_neg (by simp [noSubject])]
    exact replays.initialized y symbol found

/-- The values behind an event about `x`, if the symbol of `x` is changed
accordingly. -/
theorem values_insert (replays : Replays events m) {symbol : Symbol}
    (subject : e.subject? = some x) (value : e.value? = some (Constant.textOf symbol.value)) :
    replay (events ++ [e]) = (m.insert x symbol).map fun s => Constant.textOf s.value := by
  refine NameMap.ext_get? ?_
  intro y
  rw [replay_concat, Event.apply, subject, value, replays.values, NameMap.get?_insert,
    NameMap.get?_map, NameMap.get?_map, NameMap.get?_insert]
  split <;> rfl

theorem initialized_insert (replays : Replays events m) {symbol : Symbol}
    (subject : e.subject? = some x)
    (initialized : symbol.initialized = true ↔ e.message ≠ "declared uninitialized variable") :
    ∀ y s, (m.insert x symbol).get? y = some s → ∃ last, lastAbout y (events ++ [e]) = some last ∧
      (s.initialized = true ↔ last.message ≠ "declared uninitialized variable") := by
  intro y s found
  rw [NameMap.get?_insert] at found
  rw [lastAbout_concat, subject]
  by_cases same : x = y
  · rw [if_pos same] at found
    cases found
    exact ⟨e, if_pos (congrArg some same), initialized⟩
  · rw [if_neg same] at found
    rw [if_neg (by simpa using same)]
    exact replays.initialized y s found

/-- A new name is declared. -/
theorem declare (replays : Replays events m) (absent : m.get? x = none) {symbol : Symbol}
    (declares : e.Declares x (Constant.textOf symbol.value))
    (initialized : symbol.initialized = true ↔ e.message ≠ "declared uninitialized variable") :
    Replays (events ++ [e]) (m.insert x symbol) := by
  have subject : e.subject? = some x := by
    rw [Event.subject?, declares.declares, Option.some_or]
  refine replays.concat ?_ ?_ ?_ (replays.values_insert subject declares.value)
    (replays.initialized_insert subject initialized)
  · intro y
    rw [declares.declares, NameMap.contains, NameMap.contains, NameMap.get?_insert]
    by_cases same : x = y <;> simp [same]
  · intro y same
    rw [declares.declares] at same
    cases same
    rw [NameMap.contains, absent, Option.isSome_none]
  · simp [declares.assigns]

/-- A value is assigned to a name that is declared. -/
theorem assign (replays : Replays events m) {symbol : Symbol} (found : m.get? x = some symbol)
    {value : Option Constant} (assigns : e.Assigns x (Constant.textOf value))
    (message : e.message ≠ "declared uninitialized variable") :
    Replays (events ++ [e]) (m.modify x (·.store value)) := by
  have subject : e.subject? = some x := by
    rw [Event.subject?, assigns.declares, Option.none_or, assigns.assigns]
  rw [NameMap.modify_eq_insert found]
  refine replays.concat ?_ ?_ ?_ (replays.values_insert subject assigns.value)
    (replays.initialized_insert subject (by simp [Symbol.store, message]))
  · intro y
    rw [assigns.declares, NameMap.contains, NameMap.contains, NameMap.get?_insert]
    by_cases same : x = y
    · subst same
      simp [found]
    · simp [same]
  · simp [assigns.declares]
  · intro y same
    rw [assigns.assigns] at same
    cases same
    rw [NameMap.contains, NameMap.get?_insert, if_pos rfl, Option.isSome_some]

end Replays

/-! ### Passes -/

/-- The pass goes on with a trace so that it tells the symbols it leaves. -/
def Pass.Traces (label : String) (events : List Event) (pass : Pass) : Prop :=
  ∃ m, pass.table = ofFunction label m ∧ Replays (events ++ pass.events) m

namespace Pass.Traces

variable {label : String} {events : List Event} {m : NameMap Symbol} {pass : Pass}

theorem of_nothing (replays : Replays events m) (table : pass.table = ofFunction label m)
    (silent : pass.events = []) : pass.Traces label events :=
  ⟨m, table, by rwa [silent, List.append_nil]⟩

theorem andThen {next : Table → Pass} (first : pass.Traces label events)
    (second : ∀ m, Replays (events ++ pass.events) m →
      (next (ofFunction label m)).Traces label (events ++ pass.events)) :
    (pass.andThen next).Traces label events := by
  obtain ⟨m, table, replays⟩ := first
  obtain ⟨m', table', replays'⟩ := second m replays
  refine ⟨m', ?_, ?_⟩
  · rw [andThen_table, table, table']
  · rwa [andThen_events, table, ← List.append_assoc]

theorem each {α : Type} {step : Table → α → Pass}
    (steps : ∀ events m a, Replays events m → (step (ofFunction label m) a).Traces label events)
    (replays : Replays events m) (xs : List α) :
    (Pass.each step (ofFunction label m) xs).Traces label events := by
  induction xs generalizing events m with
  | nil => exact of_nothing replays rfl rfl
  | cons a rest ih => exact (steps events m a replays).andThen fun m' replays' => ih replays'

end Pass.Traces

section Check

variable {label : String} {events : List Event} {m : NameMap Symbol}

theorem checkParam_traces (replays : Replays events m) (p : Param) :
    (checkParam (ofFunction label m) p).Traces label events := by
  cases found : m.get? p.name with
  | some existing =>
      rw [checkParam_duplicate found]
      exact .of_nothing replays rfl rfl
  | none =>
      rw [checkParam_fresh found]
      refine ⟨_, rfl, replays.declare found (Event.declares_declaredParam _ _) ?_⟩
      simp [Symbol.withValue, Event.message]

theorem checkVar_traces (type : Ty) (replays : Replays events m) (v : VarDecl) :
    (checkVar type (ofFunction label m) v).Traces label events := by
  cases found : m.get? v.name with
  | some existing =>
      rw [checkVar_duplicate found]
      exact .of_nothing replays rfl rfl
  | none =>
      cases initial : v.init with
      | none =>
          rw [checkVar_plain found initial]
          refine ⟨_, rfl, replays.declare found (Event.declares_declaredUninitialized _ _) ?_⟩
          simp [Symbol.declared, Event.message]
      | some init =>
          rw [checkVar_initialized found initial rfl]
          refine ⟨_, rfl, replays.declare found (Event.declares_declaredInitialized _ _) ?_⟩
          simp [Symbol.withValue, Event.message]

theorem checkAssignment_traces (replays : Replays events m) (target : String) (value : Expr)
    (span : Span) :
    (checkAssignment (ofFunction label m) target value span).Traces label events := by
  cases found : m.get? target with
  | none =>
      rw [checkAssignment_unknown found]
      exact .of_nothing replays rfl rfl
  | some symbol =>
      rw [checkAssignment_declared found rfl]
      refine ⟨_, rfl, replays.assign found (Event.assigns_assigned _ _) ?_⟩
      simp [Event.message]

theorem checkStmt_traces (function : String) (replays : Replays events m) (s : Stmt) :
    (checkStmt function (ofFunction label m) s).Traces label events := by
  cases s with
  | declaration type vars span =>
      exact .each (fun _ _ v replays => checkVar_traces _ replays v) replays vars
  | assignment target value span => exact checkAssignment_traces replays target value span
  | ret value span =>
      cases value with
      | none => exact ⟨m, rfl, replays.silent rfl⟩
      | some value =>
          refine ⟨m, rfl, ?_⟩
          show Replays (events ++ ([.returnedValue _] ++ [.returned function _])) m
          rw [← List.append_assoc]
          exact (replays.silent rfl).silent rfl
  | expr e span => exact .of_nothing replays rfl rfl

theorem FunctionDef.pass_traces (f : FunctionDef) (replays : Replays events .empty) :
    f.pass.Traces (functionLabel f.name) events := by
  have params : f.paramsPass.Traces (functionLabel f.name) events :=
    .each (fun _ _ p replays => checkParam_traces replays p) replays f.params
  exact params.andThen fun m replays =>
    .each (fun _ _ s replays => checkStmt_traces f.name replays s) replays f.body

end Check

/-- **The trace tells the symbols.** Every name of the scope of the function is
declared by one event and no other name is, and no event assigns a name before
the one that declares it. Replaying the events gives each name the text of the
final value of its symbol; and the symbol is initialized unless the last event
about it is a declaration without an initial value. The last event of all has the
counts of the summary. -/
theorem analyze_trace_replays (p : Program) :
    ∃ id scope, (analyze p).table.global.children = [id] ∧
      (analyze p).table.scope? id = some scope ∧
      (∀ x, (analyze p).events.countP (fun e => e.declares? = some x) =
        if scope.symbols.contains x then 1 else 0) ∧
      (analyze p).events.Pairwise
        (fun e later => ∀ x, e.assigns? = some x → later.declares? ≠ some x) ∧
      replay (analyze p).events = scope.symbols.map (fun s => Constant.textOf s.value) ∧
      (∀ x symbol, scope.symbols.get? x = some symbol →
        ∃ last, lastAbout x (analyze p).events = some last ∧
          (symbol.initialized = true ↔ last.message ≠ "declared uninitialized variable")) ∧
      (analyze p).events.getLast?.map Event.fields =
        some [("errors", .count (analyze p).summary.errors),
          ("warnings", .count (analyze p).summary.warnings)] := by
  have opened : Replays
      ([] ++ [.started] ++ [.enteredFunction p.function.name p.function.returnType]) .empty :=
    (Replays.empty.silent rfl).silent rfl
  obtain ⟨m, table, replays⟩ := p.function.pass_traces opened
  have whole : Replays (analyze p).events m := by
    rw [analyze_events]
    exact replays.silent rfl
  rw [analyze_table table]
  refine ⟨1, _, rfl, rfl, whole.declared_once, whole.in_order, whole.values, whole.initialized, ?_⟩
  rw [analyze_events, List.getLast?_concat, Option.map_some]
  rfl

/-- `n` is assigned behind its declaration, and `x` is not. -/
example :
    (replay
      [.started, .enteredFunction "f" .int, .declaredParam "n" .int,
        .declaredUninitialized "x" .bool, .assigned "n" (some (.int 7)), .returnedValue none,
        .completed 0 1]).entries = [("n", "7"), ("x", "null")] := by
  decide

end Scopewise
