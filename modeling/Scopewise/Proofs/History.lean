/-
What becomes of scopes and symbols in the course of a run.

A table forgets nothing until it is reset. A scope that was left is frozen: it
is never opened again, and nothing in it changes any more
(`Table.run_keeps_left`). A symbol stays where it was declared, under its type
and place, and the one thing that happens to it is that a value is stored in it
(`Table.run_life_cycle`).

Both follow from what a single operation can do: to a scope that was left
(`Table.Left.step`), and to what a scope holds under a name (`Table.Change`).
`Table.history` lists the operations of a run, each with the table it meets.
-/

import Scopewise.Proofs.TableRuns

namespace Scopewise

namespace Table

/-! ### Histories -/

/-- The operations of a run, each with the table that it is carried out on. -/
def history (t : Table) : List Operation → List (Table × Operation)
  | [] => []
  | op :: rest => (t, op) :: (t.perform op).2.history rest

theorem run_cons (t : Table) (op : Operation) (rest : List Operation) :
    t.run (op :: rest) = (t.perform op).2.run rest :=
  rfl

theorem run_append (t : Table) (ops later : List Operation) :
    t.run (ops ++ later) = (t.run ops).run later :=
  List.foldl_append

theorem history_append (t : Table) (ops later : List Operation) :
    t.history (ops ++ later) = t.history ops ++ (t.run ops).history later := by
  induction ops generalizing t with
  | nil => rfl
  | cons op rest ih => exact congrArg ((t, op) :: ·) (ih _)

/-- What is different behind a run was changed by one of its operations. -/
theorem exists_change {α : Type} (view : Table → α) {t : Table} {ops : List Operation}
    (different : view (t.run ops) ≠ view t) :
    ∃ s op, (s, op) ∈ t.history ops ∧ view (s.perform op).2 ≠ view s := by
  induction ops generalizing t with
  | nil => exact absurd rfl different
  | cons op rest ih =>
      by_cases first : view (t.perform op).2 = view t
      · obtain ⟨s, other, mem, changed⟩ := ih (first ▸ different)
        exact ⟨s, other, List.mem_cons_of_mem _ mem, changed⟩
      · exact ⟨t, op, List.mem_cons_self .., first⟩

theorem WellFormed.history {t s : Table} (wf : t.WellFormed) {ops : List Operation}
    {op : Operation} (mem : (s, op) ∈ t.history ops) : op ∈ ops ∧ s.WellFormed := by
  induction ops generalizing t with
  | nil => cases mem
  | cons first rest ih =>
      rcases List.mem_cons.mp mem with same | mem
      · cases same
        exact ⟨List.mem_cons_self .., wf⟩
      · obtain ⟨listed, wf'⟩ := ih (wf.perform first) mem
        exact ⟨List.mem_cons_of_mem _ listed, wf'⟩

/-! ### Scopes that were left -/

/-- The scope numbered `id` is open: it is the current one or an ancestor of
it. -/
def IsOpen (t : Table) (id : Nat) : Prop := ∃ ids, t.Path t.current ids ∧ id ∈ ids

section LeftScopes

variable {t t' : Table} {op : Operation} {answer : Answer} {id : Nat}

theorem WellFormed.isOpen_iff (wf : t.WellFormed) : t.IsOpen id ↔ id ∈ t.chain := by
  constructor
  · rintro ⟨ids, path, mem⟩
    rw [wf.chain_eq path]
    exact mem
  · intro mem
    exact ⟨t.chain, wf.path_chain, mem⟩

theorem WellFormed.current_mem_chain (wf : t.WellFormed) : t.current ∈ t.chain := by
  obtain ⟨ancestors, whole⟩ := wf.path_chain.exists_ancestors
  rw [whole]
  exact List.mem_cons_self ..

/-- The scope numbered `id` is `scope`, and it was left: it is not on the
chain. -/
structure Left (t : Table) (id : Nat) (scope : Scope) : Prop where
  found : t.scope? id = some scope
  apart : id ∉ t.chain

namespace Left

variable {scope : Scope}

theorem ne_current (left : t.Left id scope) (wf : t.WellFormed) : t.current ≠ id :=
  fun same => left.apart (same ▸ wf.current_mem_chain)

/-- Only the current scope gets a new child, and what comes to the chain is a
new scope. -/
theorem enter (left : t.Left id scope) (wf : t.WellFormed) (label : String) :
    (t.enter label).Left id scope := by
  have old := scope?_eq_some_lt left.found
  constructor
  · rw [scope?_enter_old label old, left.found, Option.map_some, if_neg (left.ne_current wf)]
  · rw [wf.chain_enter, List.mem_cons, not_or]
    exact ⟨Nat.ne_of_lt old, left.apart⟩

/-- Symbols are changed in open scopes only. -/
theorem updateSymbols (left : t.Left id scope) {other : Nat} (mem : other ∈ t.chain)
    (f : NameMap Symbol → NameMap Symbol) : (t.updateSymbols other f).Left id scope := by
  have different : other ≠ id := fun same => left.apart (same ▸ mem)
  constructor
  · simpa [scope?_updateSymbols, different] using left.found
  · rw [chain_updateSymbols]
    exact left.apart

theorem step (left : t.Left id scope) (wf : t.WellFormed) (step : Step t op answer t')
    (goesOn : op ≠ .reset) : t'.Left id scope := by
  cases step with
  | entered label => exact left.enter wf label
  | left outer =>
      refine ⟨left.found, fun mem => left.apart ?_⟩
      rw [wf.chain_outward outer]
      exact List.mem_cons_of_mem _ mem
  | declared => exact left.updateSymbols wf.current_mem_chain _
  | assigned resolved => exact left.updateSymbols (List.mem_of_find?_eq_some resolved) _
  | outermost | duplicate | missed => exact left
  | cleared => exact absurd rfl goesOn

theorem run (left : t.Left id scope) (wf : t.WellFormed) {ops : List Operation}
    (goesOn : .reset ∉ ops) : (t.run ops).Left id scope := by
  apply wf.run_induction (P := (·.Left id scope)) left
  intro s op mem wf left
  exact left.step wf (.perform s op) fun same => goesOn (same ▸ mem)

end Left

end LeftScopes

/-- **A scope that was left is frozen.** If a scope of a table is neither the
current one nor an ancestor of it, then no later run without a reset makes it
so again, and the scope stays exactly as it is: its name, its parent, its
children and all its symbols. -/
theorem run_keeps_left (earlier later : List Operation) (goesOn : .reset ∉ later) {id : Nat}
    {scope : Scope} (found : (new.run earlier).scope? id = some scope)
    (closed : ¬ (new.run earlier).IsOpen id) :
    let t := (new.run earlier).run later
    t.current ≠ id ∧ ¬ t.IsOpen id ∧ t.scope? id = some scope := by
  intro t
  have wf := wellFormed_run earlier
  have wf' : t.WellFormed := wf.run later
  rw [wf.isOpen_iff] at closed
  have left : t.Left id scope := Left.run ⟨found, closed⟩ wf goesOn
  refine ⟨left.ne_current wf', ?_, left.found⟩
  rw [wf'.isOpen_iff]
  exact left.apart

/-- A run that leaves scope 1, with a symbol and a child in it. -/
def leavesScope : List Operation :=
  [.declare "x" .int .unknown, .enter "f", .declare "x" .bool .unknown, .enter "g", .exit, .exit]

/-- A run that uses the same names again, and tries to leave the global scope. -/
def reusesNames : List Operation :=
  [.assign "x" (some (.int 7)), .enter "f", .declare "x" .void .unknown, .assign "x" none, .exit,
    .exit]

/-- The scope that `leavesScope` leaves. -/
def scopeOfF : Scope where
  name := "f_1"
  symbols := NameMap.empty.insert "x" (.declared "x" .bool .unknown)
  parent := some 0
  children := [2]

theorem run_keeps_left_reusesNames :
    .reset ∉ reusesNames ∧ (new.run leavesScope).scope? 1 = some scopeOfF ∧
      ¬ (new.run leavesScope).IsOpen 1 ∧
      let t := (new.run leavesScope).run reusesNames
      t.current ≠ 1 ∧ ¬ t.IsOpen 1 ∧ t.scope? 1 = some scopeOfF := by
  have goesOn : .reset ∉ reusesNames := by decide
  have found : (new.run leavesScope).scope? 1 = some scopeOfF := by decide
  have closed : ¬ (new.run leavesScope).IsOpen 1 := by
    rw [(wellFormed_run leavesScope).isOpen_iff]
    decide
  exact ⟨goesOn, found, closed, run_keeps_left leavesScope reusesNames goesOn found closed⟩

/-! ### The life of a symbol -/

/-- What the scope numbered `id` holds under `name`. -/
def symbolAt? (t : Table) (id : Nat) (name : String) : Option Symbol :=
  (t.scope? id).bind (·.symbols.get? name)

section Symbols

variable {t t' : Table} {op : Operation} {answer : Answer} {id : Nat} {name : String}

theorem lookup?_eq_bind (t : Table) (name : String) :
    t.lookup? name = (t.resolve? name).bind (t.symbolAt? · name) :=
  rfl

theorem declares_eq_isSome (t : Table) (name : String) (id : Nat) :
    t.declares name id = (t.symbolAt? id name).isSome := by
  rw [declares, symbolAt?]
  cases t.scope? id <;> rfl

theorem symbolAt?_updateSymbols (t : Table) (changed id : Nat)
    (f : NameMap Symbol → NameMap Symbol) (name : String) :
    (t.updateSymbols changed f).symbolAt? id name =
      if changed = id then (t.scope? id).bind fun scope => (f scope.symbols).get? name
      else t.symbolAt? id name := by
  rw [symbolAt?, scope?_updateSymbols, Option.bind_map, symbolAt?]
  split <;> rfl

/-- A scope that is entered starts empty, and all others keep their symbols. -/
theorem symbolAt?_enter (t : Table) (label : String) (id : Nat) (name : String) :
    (t.enter label).symbolAt? id name = t.symbolAt? id name := by
  rcases Nat.lt_trichotomy id t.scopes.length with old | rfl | beyond
  · rw [symbolAt?, scope?_enter_old label old, Option.bind_map, symbolAt?]
    congr 1
    funext scope
    rw [Function.comp_apply]
    split <;> rfl
  · rw [symbolAt?, scope?_enter_new, symbolAt?, scope?, List.getElem?_eq_none (Nat.le_refl _)]
    rfl
  · have beyond' : (t.enter label).scopes.length ≤ id := by
      rw [enter_length]
      exact beyond
    rw [symbolAt?, scope?, symbolAt?, scope?, List.getElem?_eq_none beyond',
      List.getElem?_eq_none (Nat.le_of_lt beyond)]

/-- `Change t op answer id name before after`: all that an operation on `t` can
make of what the scope numbered `id` holds under `name`. -/
inductive Change (t : Table) (op : Operation) (answer : Answer) (id : Nat) (name : String) :
    Option Symbol → Option Symbol → Prop where
  | kept {entry : Option Symbol} : Change t op answer id name entry entry
  | declared {symbol : Symbol} : op.symbol? = some symbol → id = t.current →
      Change t op answer id name none (some symbol)
  | stored {symbol : Symbol} {value : Option Constant} : op = .assign name value →
      answer = .assigned true → t.resolve? name = some id →
      Change t op answer id name (some symbol) (some (symbol.store value))

/-- A symbol is declared where nothing was, in the current scope. -/
theorem Change.insert (wf : t.WellFormed) {symbol : Symbol} (declares : op.symbol? = some symbol)
    (fresh : t.currentScope.symbols.get? symbol.name = none) :
    t.Change op answer id name (t.symbolAt? id name)
      ((t.updateSymbols t.current (·.insert symbol.name symbol)).symbolAt? id name) := by
  rw [symbolAt?_updateSymbols]
  by_cases here : t.current = id
  · subst here
    rw [if_pos rfl, symbolAt?, wf.scope?_current, Option.bind_some, Option.bind_some,
      NameMap.get?_insert]
    by_cases same : symbol.name = name
    · rw [if_pos same, ← same, fresh]
      exact .declared declares rfl
    · rw [if_neg same]
      exact .kept
  · rw [if_neg here]
    exact .kept

theorem Change.store {key : String} {value : Option Constant} {changed : Nat}
    (resolved : t.resolve? key = some changed) :
    t.Change (.assign key value) (.assigned true) id name (t.symbolAt? id name)
      ((t.updateSymbols changed (·.modify key (·.store value))).symbolAt? id name) := by
  rw [symbolAt?_updateSymbols]
  by_cases here : changed = id
  · subst here
    rw [if_pos rfl, symbolAt?]
    cases found : t.scope? changed with
    | none => exact .kept
    | some scope =>
        simp only [Option.bind_some, NameMap.get?_modify]
        by_cases same : key = name
        · subst same
          rw [if_pos rfl]
          cases scope.symbols.get? key with
          | none => exact .kept
          | some symbol => exact .stored rfl rfl resolved
        · rw [if_neg same]
          exact .kept
  · rw [if_neg here]
    exact .kept

theorem Step.change (step : Step t op answer t') (wf : t.WellFormed) (goesOn : op ≠ .reset)
    (id : Nat) (name : String) :
    t.Change op answer id name (t.symbolAt? id name) (t'.symbolAt? id name) := by
  cases step with
  | entered label =>
      rw [symbolAt?_enter]
      exact .kept
  | left | outermost | duplicate | missed => exact .kept
  | declared declares fresh => exact .insert wf declares fresh
  | assigned resolved => exact .store resolved
  | cleared => exact absurd rfl goesOn

end Symbols

end Table

/-- `before.Becomes after`: the same symbol at a later time. -/
structure Symbol.Becomes (before after : Symbol) : Prop where
  name : after.name = before.name
  type : after.type = before.type
  declaredAt : after.declaredAt = before.declaredAt
  initialized : before.initialized = true → after.initialized = true

theorem Symbol.Becomes.refl (s : Symbol) : s.Becomes s := ⟨rfl, rfl, rfl, id⟩

theorem Symbol.Becomes.store {before after : Symbol} (becomes : before.Becomes after)
    (value : Option Constant) : before.Becomes (after.store value) :=
  ⟨becomes.name, becomes.type, becomes.declaredAt, fun _ => rfl⟩

namespace Table

/-- Nothing is stored in a symbol that is not initialized. -/
def UnsetIsEmpty (t : Table) : Prop :=
  ∀ id name symbol, t.symbolAt? id name = some symbol → symbol.initialized = false →
    symbol.value = none

theorem unsetIsEmpty_new : new.UnsetIsEmpty := by
  intro id name symbol held
  obtain ⟨scope, found, held⟩ := Option.bind_eq_some_iff.mp held
  rw [(scope?_new found).2] at held
  cases held

theorem value_of_unset_symbol? {op : Operation} {symbol : Symbol}
    (declares : op.symbol? = some symbol) (unset : symbol.initialized = false) :
    symbol.value = none := by
  cases op with
  | declare =>
      cases declares
      rfl
  | declareWithValue =>
      cases declares
      cases unset
  | enter | exit | assign | reset => cases declares

/-- A value comes into a symbol together with the mark that it is initialized. -/
theorem UnsetIsEmpty.perform {t : Table} (holds : t.UnsetIsEmpty) (wf : t.WellFormed)
    (op : Operation) : (t.perform op).2.UnsetIsEmpty := by
  by_cases reset : op = .reset
  · subst reset
    exact unsetIsEmpty_new
  · intro id name symbol held unset
    have change := (Step.perform t op).change wf reset id name
    rw [held] at change
    generalize before : t.symbolAt? id name = entry at change
    cases change with
    | kept => exact holds id name symbol before unset
    | declared declares => exact value_of_unset_symbol? declares unset
    | stored => cases unset

theorem unsetIsEmpty_run (ops : List Operation) : (new.run ops).UnsetIsEmpty := by
  apply wellFormed_new.run_induction unsetIsEmpty_new
  intro t op _ wf holds
  exact holds.perform wf op

/-- The scope numbered `id` holds under `name` what became of `symbol`. -/
def Keeps (t : Table) (id : Nat) (name : String) (symbol : Symbol) : Prop :=
  ∃ after, t.symbolAt? id name = some after ∧ symbol.Becomes after

section Symbols

variable {t : Table} {id : Nat} {name : String} {symbol : Symbol}

/-- A symbol that is there stays as it is, unless an assignment finds it. -/
theorem WellFormed.symbolAt?_perform (wf : t.WellFormed) {op : Operation} (goesOn : op ≠ .reset)
    (held : t.symbolAt? id name = some symbol) :
    (t.perform op).2.symbolAt? id name = some symbol ∨
      ∃ value, op = .assign name value ∧ (t.perform op).1 = .assigned true ∧
        (t.perform op).2.symbolAt? id name = some (symbol.store value) := by
  have change := (Step.perform t op).change wf goesOn id name
  rw [held] at change
  generalize (t.perform op).2.symbolAt? id name = after at change ⊢
  cases change with
  | kept => exact .inl rfl
  | stored assigns found => exact .inr ⟨_, assigns, found, rfl⟩

theorem Keeps.run (wf : t.WellFormed) (held : t.symbolAt? id name = some symbol)
    {ops : List Operation} (goesOn : .reset ∉ ops) : (t.run ops).Keeps id name symbol := by
  have start : t.Keeps id name symbol := ⟨symbol, held, .refl symbol⟩
  apply wf.run_induction (P := (·.Keeps id name symbol)) start
  rintro s op mem wf ⟨now, held, becomes⟩
  have notReset : op ≠ .reset := fun same => goesOn (same ▸ mem)
  rcases wf.symbolAt?_perform notReset held with same | ⟨value, -, -, stored⟩
  · exact ⟨now, same, becomes⟩
  · exact ⟨now.store value, stored, becomes.store value⟩

end Symbols

/-- What the life of symbols is like in a run that starts from `t`. -/
structure LifeCycle (t : Table) (ops : List Operation) : Prop where
  /-- A symbol stays in its scope, with its name, type and place, and does not
  cease to be initialized. -/
  stays : ∀ {id name symbol}, t.symbolAt? id name = some symbol →
    (t.run ops).Keeps id name symbol
  /-- It changes only in an assignment to its name that is carried out. -/
  changes : ∀ {s op}, (s, op) ∈ t.history ops → ∀ {id name symbol},
    s.symbolAt? id name = some symbol → (s.perform op).2.symbolAt? id name ≠ some symbol →
    ∃ value, op = .assign name value ∧ (s.perform op).1 = .assigned true
  /-- As long as it is not initialized, it has no value. -/
  unset : t.UnsetIsEmpty

/-- **The life of a symbol.** In a run without a reset a symbol stays in its
scope for good, with its name, type and place; it is never uninitialized again;
and it changes only in an assignment that finds it. A symbol that is not
initialized has no value, in whatever way the table came about. -/
theorem run_life_cycle (earlier later : List Operation) (goesOn : .reset ∉ later) :
    (new.run earlier).LifeCycle later := by
  have wf := wellFormed_run earlier
  refine ⟨fun held => .run wf held goesOn, ?_, unsetIsEmpty_run earlier⟩
  intro s op mem id name symbol held changed
  obtain ⟨listed, wf'⟩ := wf.history mem
  have notReset : op ≠ .reset := fun same => goesOn (same ▸ listed)
  rcases wf'.symbolAt?_perform notReset held with same | ⟨value, assigns, found, -⟩
  · exact absurd same changed
  · exact ⟨value, assigns, found⟩

/-- The symbol of the global scope is initialized on the way, and the one in the
scope that was left is not. -/
theorem run_life_cycle_reusesNames :
    .reset ∉ reusesNames ∧ (new.run leavesScope).LifeCycle reusesNames ∧
      let t := (new.run leavesScope).run reusesNames
      t.symbolAt? 0 "x" = some (.withValue "x" .int (some (.int 7)) .unknown) ∧
        t.symbolAt? 1 "x" = some (.declared "x" .bool .unknown) :=
  ⟨by decide, run_life_cycle leavesScope reusesNames (by decide), by decide, by decide⟩

end Table

end Scopewise
