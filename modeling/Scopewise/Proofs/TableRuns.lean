/-
Runs of operations on a symbol table.

An `Operation` is a call that may change a table. `Table.perform` carries one
out and gives its answer, and `Table.run` carries out a list of them. `Table.Step`
sorts what can come of an operation; what all operations keep is shown from it,
case by case.

Parents, children, the current scope and the counter tell of one tree four
times over. `Table.WellFormed` says that they agree: every scope but the global
one has an earlier scope as its parent and is listed there once, and nowhere
else. Every operation keeps this, so every run of a new table does
(`wellFormed_run`).

The bounds on recursion in `Table.chainFrom` and `Table.traversalFrom` are
therefore never met. `Path`, `Search` and `Visits` follow the links of a table
without a bound, and have no rule for the number of a scope that is not there:
a search or a traversal that they describe has come to its end and has only
seen scopes of the table (`run_arena`).
-/

import Scopewise.Scope.Dump

namespace Scopewise

/-- A call that may change a symbol table. -/
inductive Operation where
  | enter (label : String)
  | exit
  | declare (name : String) (type : Ty) (place : Position)
  | declareWithValue (name : String) (type : Ty) (value : Option Constant) (place : Position)
  | assign (name : String) (value : Option Constant)
  | reset
deriving DecidableEq, Repr

/-- The symbol that an operation declares. -/
def Operation.symbol? : Operation → Option Symbol
  | .declare name type place => some (.declared name type place)
  | .declareWithValue name type value place => some (.withValue name type value place)
  | _ => none

/-- What an operation answers. -/
inductive Answer where
  /-- The number of the scope that was entered. -/
  | entered (id : Nat)
  /-- The number of the scope that was left. -/
  | left (id : Nat)
  | declared
  | refused (error : ScopeError)
  /-- Whether the name that is assigned was found. -/
  | assigned (found : Bool)
  | cleared
deriving DecidableEq, Repr

namespace Table

/-- The answer to a change, and the table behind it; a refused change leaves
the table as it was. -/
def answering (t : Table) (success : Answer) : Except ScopeError Table → Answer × Table
  | .ok changed => (success, changed)
  | .error e => (.refused e, t)

/-- Carries out an operation. -/
def perform (t : Table) : Operation → Answer × Table
  | .enter label => (.entered (t.enter label).current, t.enter label)
  | .exit => t.answering (.left t.current) t.exit
  | .declare name type place => t.answering .declared (t.declare name type place)
  | .declareWithValue name type value place =>
      t.answering .declared (t.declareWithValue name type value place)
  | .assign name value =>
      match t.assign? name value with
      | some changed => (.assigned true, changed)
      | none => (.assigned false, t)
  | .reset => (.cleared, .new)

/-- Carries out operations one after the other. -/
def run (t : Table) (ops : List Operation) : Table := ops.foldl (fun t op => (t.perform op).2) t

/-- What holds of a new table and is kept by every operation holds after every
run. -/
theorem run_induction {P : Table → Prop} (start : P new)
    (step : ∀ t op, P t → P (t.perform op).2) (ops : List Operation) : P (new.run ops) :=
  List.foldlRecOn ops _ start fun t holds op _ => step t op holds

/-! ### What the operations change -/

/-- Changes the symbols of one scope. -/
def updateSymbols (t : Table) (id : Nat) (f : NameMap Symbol → NameMap Symbol) : Table :=
  { t with scopes := t.scopes.modify id fun s => { s with symbols := f s.symbols } }

section Operations

variable {t : Table}

theorem scope?_eq_some_lt {id : Nat} {scope : Scope} (found : t.scope? id = some scope) :
    id < t.scopes.length :=
  (List.getElem?_eq_some_iff.mp found).1

theorem exists_scope? {id : Nat} (valid : id < t.scopes.length) :
    ∃ scope, t.scope? id = some scope :=
  ⟨_, List.getElem?_eq_getElem valid⟩

theorem currentScope_eq {scope : Scope} (found : t.scope? t.current = some scope) :
    t.currentScope = scope := by
  rw [currentScope, found]
  rfl

@[simp] theorem updateSymbols_length {id : Nat} {f : NameMap Symbol → NameMap Symbol} :
    (t.updateSymbols id f).scopes.length = t.scopes.length :=
  List.length_modify ..

@[simp] theorem enter_length {label : String} :
    (t.enter label).scopes.length = t.scopes.length + 1 := by
  simp [enter]

theorem scope?_updateSymbols (id i : Nat) (f : NameMap Symbol → NameMap Symbol) :
    (t.updateSymbols id f).scope? i =
      (t.scope? i).map fun s => if id = i then { s with symbols := f s.symbols } else s :=
  List.getElem?_modify ..

/-- Only the symbols of one scope are changed. -/
theorem scope?_updateSymbols_eq_some {id i : Nat} {f : NameMap Symbol → NameMap Symbol}
    {after : Scope} (found : (t.updateSymbols id f).scope? i = some after) :
    ∃ before, t.scope? i = some before ∧ after.parent = before.parent ∧
      after.children = before.children ∧
      (after.symbols = before.symbols ∨ after.symbols = f before.symbols) := by
  rw [scope?_updateSymbols] at found
  obtain ⟨before, held, rfl⟩ := Option.map_eq_some_iff.mp found
  refine ⟨before, held, ?_⟩
  split <;> simp

/-- The scope that `enter` adds. -/
theorem scope?_enter_new (label : String) :
    (t.enter label).scope? t.scopes.length =
      some { name := scopeName label (t.counter + 1), parent := some t.current } := by
  simp [enter, scope?]

theorem scope?_enter_old (label : String) {i : Nat} (old : i < t.scopes.length) :
    (t.enter label).scope? i =
      (t.scope? i).map fun s =>
        if t.current = i then { s with children := s.children ++ [t.scopes.length] } else s := by
  simp only [enter, scope?]
  rw [List.getElem?_append_left (by simpa using old), List.getElem?_modify]
  rfl

/-- A scope behind `enter` is the new one, or an old one that may have got the
new one as its last child. -/
theorem scope?_enter_eq_some {label : String} {i : Nat} {after : Scope}
    (found : (t.enter label).scope? i = some after) :
    (i = t.scopes.length ∧ after.symbols = .empty ∧ after.parent = some t.current ∧
        after.children = []) ∨
      ∃ before, t.scope? i = some before ∧ after.symbols = before.symbols ∧
        after.parent = before.parent ∧
        after.children = before.children ++ if t.current = i then [t.scopes.length] else [] := by
  have bound := scope?_eq_some_lt found
  rw [enter_length] at bound
  rcases Nat.lt_or_eq_of_le (Nat.le_of_lt_succ bound) with old | new
  · rw [scope?_enter_old label old] at found
    obtain ⟨before, held, rfl⟩ := Option.map_eq_some_iff.mp found
    refine .inr ⟨before, held, ?_⟩
    split <;> simp
  · subst new
    rw [scope?_enter_new] at found
    cases found
    exact .inl ⟨rfl, rfl, rfl, rfl⟩

theorem exit_eq_ok {left : Table} (done : t.exit = .ok left) :
    ∃ parent, t.currentScope.parent = some parent ∧ left = { t with current := parent } := by
  unfold exit at done
  split at done
  next parent found => exact ⟨parent, found, (Except.ok.inj done).symm⟩
  next => cases done

/-- A symbol is added under its own name, unless the current scope has that
name. -/
theorem insert_eq (symbol : Symbol) :
    t.insert symbol =
      if t.currentScope.symbols.contains symbol.name then
        .error (.duplicateInScope symbol.name t.currentScope.name)
      else .ok (t.updateSymbols t.current (·.insert symbol.name symbol)) :=
  rfl

theorem assign?_eq (name : String) (value : Option Constant) :
    t.assign? name value =
      (t.resolve? name).map fun id => t.updateSymbols id (·.modify name (·.store value)) := by
  rw [assign?, modify?]
  cases t.resolve? name <;> rfl

end Operations

/-- `Step t op answer t'`: all that can come of an operation on `t`, with the
answer to it and the table behind it. -/
inductive Step (t : Table) : Operation → Answer → Table → Prop where
  | entered (label : String) : Step t (.enter label) (.entered t.scopes.length) (t.enter label)
  | left {parent : Nat} : t.currentScope.parent = some parent →
      Step t .exit (.left t.current) { t with current := parent }
  | outermost : t.currentScope.parent = none → Step t .exit (.refused .cannotExitGlobal) t
  | declared {op : Operation} {symbol : Symbol} : op.symbol? = some symbol →
      t.currentScope.symbols.get? symbol.name = none →
      Step t op .declared (t.updateSymbols t.current (·.insert symbol.name symbol))
  | duplicate {op : Operation} {symbol other : Symbol} : op.symbol? = some symbol →
      t.currentScope.symbols.get? symbol.name = some other →
      Step t op (.refused (.duplicateInScope symbol.name t.currentScope.name)) t
  | assigned {name : String} {value : Option Constant} {id : Nat} : t.resolve? name = some id →
      Step t (.assign name value) (.assigned true)
        (t.updateSymbols id (·.modify name (·.store value)))
  | missed {name : String} {value : Option Constant} : t.resolve? name = none →
      Step t (.assign name value) (.assigned false) t
  | cleared : Step t .reset .cleared new

theorem Step.insert (t : Table) {op : Operation} {symbol : Symbol}
    (declares : op.symbol? = some symbol) :
    Step t op (t.answering .declared (t.insert symbol)).1
      (t.answering .declared (t.insert symbol)).2 := by
  rw [insert_eq, NameMap.contains]
  cases held : t.currentScope.symbols.get? symbol.name with
  | none => exact .declared declares held
  | some other => exact .duplicate declares held

/-- Every operation is one of the steps. -/
theorem Step.perform (t : Table) (op : Operation) :
    Step t op (t.perform op).1 (t.perform op).2 := by
  cases op with
  | enter label => exact .entered label
  | exit =>
      rw [Table.perform, Table.exit]
      cases outer : t.currentScope.parent with
      | none => exact .outermost outer
      | some parent => exact .left outer
  | declare name type place => exact .insert t rfl
  | declareWithValue name type value place => exact .insert t rfl
  | assign name value =>
      rw [Table.perform, assign?_eq]
      cases found : t.resolve? name with
      | none => exact .missed found
      | some id => exact .assigned found
  | reset => exact .cleared

/-! ### Well-formed tables -/

/-- Parents, children, the current scope and the counter describe one tree, and
every symbol is kept under its own name. -/
structure WellFormed (t : Table) : Prop where
  global_parent : ∀ {scope}, t.scope? 0 = some scope → scope.parent = none
  parent_lt : ∀ {i scope}, t.scope? i = some scope → 0 < i → ∃ p < i, scope.parent = some p
  /-- A scope is listed once among the children of its parent, and in no other
  list of children. -/
  listed_once : ∀ {i j scope other}, t.scope? i = some scope → t.scope? j = some other →
    other.children.count i = if scope.parent = some j then 1 else 0
  children_increasing : ∀ {i scope}, t.scope? i = some scope → scope.children.Pairwise (· < ·)
  children_valid : ∀ {i scope}, t.scope? i = some scope → ∀ c ∈ scope.children, c < t.scopes.length
  current_valid : t.current < t.scopes.length
  counter_eq : t.counter + 1 = t.scopes.length
  keys_eq : ∀ {i scope}, t.scope? i = some scope → scope.symbols.All fun key s => s.name = key

theorem scope?_new {i : Nat} {scope : Scope} (found : new.scope? i = some scope) :
    i = 0 ∧ scope = globalScope := by
  match i, found with
  | 0, found => exact ⟨rfl, (Option.some.inj found).symm⟩

theorem wellFormed_new : new.WellFormed where
  global_parent found := by
    rw [(scope?_new found).2]
    rfl
  parent_lt found positive := absurd (scope?_new found).1 (Nat.ne_of_gt positive)
  listed_once found found' := by
    rw [(scope?_new found).2, (scope?_new found').2]
    rfl
  children_increasing found := by
    rw [(scope?_new found).2]
    exact .nil
  children_valid found := by
    rw [(scope?_new found).2]
    nofun
  current_valid := Nat.zero_lt_one
  counter_eq := rfl
  keys_eq found := by
    rw [(scope?_new found).2]
    exact NameMap.all_empty _

namespace WellFormed

variable {t : Table}

theorem scope?_current (wf : t.WellFormed) : t.scope? t.current = some t.currentScope := by
  obtain ⟨scope, found⟩ := exists_scope? wf.current_valid
  rw [currentScope_eq found, found]

/-- The parent of a scope is an earlier scope. -/
theorem lt_of_parent (wf : t.WellFormed) {i p : Nat} {scope : Scope}
    (found : t.scope? i = some scope) (parent : scope.parent = some p) : p < i := by
  rcases Nat.eq_zero_or_pos i with rfl | positive
  · rw [wf.global_parent found] at parent
    cases parent
  · obtain ⟨q, lt, parent'⟩ := wf.parent_lt found positive
    rw [parent] at parent'
    cases parent'
    exact lt

/-- A scope is the parent of its children. -/
theorem parent_of_child (wf : t.WellFormed) {i c : Nat} {scope : Scope}
    (found : t.scope? i = some scope) (child : c ∈ scope.children) :
    ∃ other, t.scope? c = some other ∧ other.parent = some i := by
  obtain ⟨other, found'⟩ := exists_scope? (wf.children_valid found c child)
  refine ⟨other, found', ?_⟩
  have counted := wf.listed_once found' found
  have listed : 0 < scope.children.count c := List.count_pos_iff.mpr child
  by_cases parent : other.parent = some i
  · exact parent
  · rw [if_neg parent] at counted
    omega

/-- A child of a scope is a later scope. -/
theorem lt_of_child (wf : t.WellFormed) {i c : Nat} {scope : Scope}
    (found : t.scope? i = some scope) (child : c ∈ scope.children) : i < c := by
  obtain ⟨other, found', parent⟩ := wf.parent_of_child found child
  exact wf.lt_of_parent found' parent

/-- No scope lists a scope that is still to be entered. -/
theorem count_unborn (wf : t.WellFormed) {i : Nat} {scope : Scope}
    (found : t.scope? i = some scope) : scope.children.count t.scopes.length = 0 :=
  List.count_eq_zero_of_not_mem fun mem => Nat.lt_irrefl _ (wf.children_valid found _ mem)

/-- An entered scope is listed with the scope that was current, and nowhere
else; all other scopes stay where they were listed. -/
theorem listed_once_enter (wf : t.WellFormed) (label : String) {i j : Nat} {scope other : Scope}
    (found : (t.enter label).scope? i = some scope)
    (found' : (t.enter label).scope? j = some other) :
    other.children.count i = if scope.parent = some j then 1 else 0 := by
  rcases scope?_enter_eq_some found with ⟨rfl, -, parent, -⟩ | ⟨before, held, -, parent, -⟩ <;>
  rcases scope?_enter_eq_some found' with ⟨rfl, -, -, children⟩ | ⟨before', held', -, -, children⟩
  · have other : t.current ≠ t.scopes.length := Nat.ne_of_lt wf.current_valid
    simp [children, parent, other]
  · rw [children, parent, List.count_append, wf.count_unborn held']
    split <;> simp_all
  · -- The parent of an old scope is no later one.
    have other : before.parent ≠ some t.scopes.length := fun same =>
      Nat.lt_asymm (wf.lt_of_parent held same) (scope?_eq_some_lt held)
    simp [children, parent, other]
  · have old : t.scopes.length ≠ i := Nat.ne_of_gt (scope?_eq_some_lt held)
    rw [children, parent, List.count_append, wf.listed_once held held']
    split <;> split <;> simp [old]

theorem enter (wf : t.WellFormed) (label : String) : (t.enter label).WellFormed where
  global_parent found := by
    rcases scope?_enter_eq_some found with ⟨new, -⟩ | ⟨before, held, -, parent, -⟩
    · exact absurd new (Nat.ne_of_lt (Nat.zero_lt_of_lt wf.current_valid))
    · rw [parent]
      exact wf.global_parent held
  parent_lt found positive := by
    rcases scope?_enter_eq_some found with ⟨rfl, -, parent, -⟩ | ⟨before, held, -, parent, -⟩
    · exact ⟨t.current, wf.current_valid, parent⟩
    · rw [parent]
      exact wf.parent_lt held positive
  listed_once := wf.listed_once_enter label
  children_increasing found := by
    rcases scope?_enter_eq_some found with ⟨-, -, -, children⟩ | ⟨before, held, -, -, children⟩
    · rw [children]
      exact .nil
    · rw [children, List.pairwise_append]
      refine ⟨wf.children_increasing held, ?_, fun c mem new mem' => ?_⟩
      · split <;> simp
      · split at mem'
        · rw [List.mem_singleton.mp mem']
          exact wf.children_valid held c mem
        · cases mem'
  children_valid found c mem := by
    rw [enter_length]
    rcases scope?_enter_eq_some found with ⟨-, -, -, children⟩ | ⟨before, held, -, -, children⟩
    · rw [children] at mem
      cases mem
    · rw [children, List.mem_append] at mem
      rcases mem with mem | mem
      · exact Nat.lt_succ_of_lt (wf.children_valid held c mem)
      · split at mem
        · rw [List.mem_singleton.mp mem]
          exact Nat.lt_succ_self _
        · cases mem
  current_valid := by
    rw [enter_length]
    exact Nat.lt_succ_self _
  counter_eq := by
    rw [enter_length, ← wf.counter_eq]
    rfl
  keys_eq found := by
    rcases scope?_enter_eq_some found with ⟨-, symbols, -⟩ | ⟨before, held, symbols, -⟩
    · rw [symbols]
      exact NameMap.all_empty _
    · rw [symbols]
      exact wf.keys_eq held

/-- Any scope of the table can be made current. -/
theorem withCurrent (wf : t.WellFormed) {id : Nat} (valid : id < t.scopes.length) :
    WellFormed { t with current := id } :=
  { wf with current_valid := valid }

theorem exit (wf : t.WellFormed) {left : Table} (done : t.exit = .ok left) : left.WellFormed := by
  obtain ⟨parent, found, rfl⟩ := exit_eq_ok done
  exact wf.withCurrent (Nat.lt_trans (wf.lt_of_parent wf.scope?_current found) wf.current_valid)

/-- Symbols can be changed freely, as long as they are kept under their names. -/
theorem updateSymbols (wf : t.WellFormed) {id : Nat} {f : NameMap Symbol → NameMap Symbol}
    (keeps : ∀ m, m.All (fun key s => s.name = key) → (f m).All fun key s => s.name = key) :
    (t.updateSymbols id f).WellFormed where
  global_parent found := by
    obtain ⟨before, held, parent, -⟩ := scope?_updateSymbols_eq_some found
    rw [parent]
    exact wf.global_parent held
  parent_lt found positive := by
    obtain ⟨before, held, parent, -⟩ := scope?_updateSymbols_eq_some found
    rw [parent]
    exact wf.parent_lt held positive
  listed_once found found' := by
    obtain ⟨before, held, parent, -⟩ := scope?_updateSymbols_eq_some found
    obtain ⟨before', held', -, children, -⟩ := scope?_updateSymbols_eq_some found'
    rw [parent, children]
    exact wf.listed_once held held'
  children_increasing found := by
    obtain ⟨before, held, -, children, -⟩ := scope?_updateSymbols_eq_some found
    rw [children]
    exact wf.children_increasing held
  children_valid found := by
    obtain ⟨before, held, -, children, -⟩ := scope?_updateSymbols_eq_some found
    rw [children, updateSymbols_length]
    exact wf.children_valid held
  current_valid := by
    rw [updateSymbols_length]
    exact wf.current_valid
  counter_eq := by
    rw [updateSymbols_length]
    exact wf.counter_eq
  keys_eq found := by
    obtain ⟨before, held, -, -, symbols | symbols⟩ := scope?_updateSymbols_eq_some found
    · rw [symbols]
      exact wf.keys_eq held
    · rw [symbols]
      exact keeps _ (wf.keys_eq held)

theorem assign? (wf : t.WellFormed) {name : String} {value : Option Constant} {changed : Table}
    (done : t.assign? name value = some changed) : changed.WellFormed := by
  rw [assign?_eq] at done
  obtain ⟨id, -, rfl⟩ := Option.map_eq_some_iff.mp done
  exact wf.updateSymbols fun _ all => all.modify fun s found => all _ s found

theorem step (wf : t.WellFormed) {op : Operation} {answer : Answer} {t' : Table}
    (step : Step t op answer t') : t'.WellFormed := by
  cases step with
  | entered label => exact wf.enter label
  | left outer => exact wf.exit (by rw [Table.exit, outer])
  | declared => exact wf.updateSymbols fun _ all => all.insert rfl
  | assigned => exact wf.updateSymbols fun _ all => all.modify fun s found => all _ s found
  | outermost | duplicate | missed => exact wf
  | cleared => exact wellFormed_new

theorem perform (wf : t.WellFormed) (op : Operation) : (t.perform op).2.WellFormed :=
  wf.step (.perform t op)

end WellFormed

theorem wellFormed_run (ops : List Operation) : (new.run ops).WellFormed :=
  run_induction wellFormed_new (fun _ op wf => wf.perform op) ops

theorem WellFormed.run {t : Table} (wf : t.WellFormed) (ops : List Operation) :
    (t.run ops).WellFormed :=
  List.foldlRecOn ops _ wf fun _ wf op _ => wf.perform op

/-- What holds of a well-formed table and is kept by every operation of a run
holds behind the run. -/
theorem WellFormed.run_induction {P : Table → Prop} {t : Table} (wf : t.WellFormed) (start : P t)
    {ops : List Operation}
    (step : ∀ s, ∀ op ∈ ops, s.WellFormed → P s → P (s.perform op).2) : P (t.run ops) := by
  induction ops generalizing t with
  | nil => exact start
  | cons op rest ih =>
      refine ih (wf.perform op) (step t op (List.mem_cons_self ..) wf start) ?_
      intro s other mem
      exact step s other (List.mem_cons_of_mem _ mem)

/-! ### The way out -/

/-- `Path t id ids`: following the parents from the scope numbered `id` leads
through `ids` and ends at a scope without a parent. -/
inductive Path (t : Table) : Nat → List Nat → Prop where
  | outermost {id : Nat} {scope : Scope} :
      t.scope? id = some scope → scope.parent = none → Path t id [id]
  | outward {id parent : Nat} {scope : Scope} {rest : List Nat} :
      t.scope? id = some scope → scope.parent = some parent → Path t parent rest →
      Path t id (id :: rest)

namespace Path

variable {t : Table} {id : Nat} {ids : List Nat}

/-- A path begins with its start; the rest are the ancestors. -/
theorem exists_ancestors (path : t.Path id ids) : ∃ ancestors, ids = id :: ancestors := by
  cases path with
  | outermost => exact ⟨[], rfl⟩
  | outward => exact ⟨_, rfl⟩

/-- There is only one way out. -/
theorem unique {ids' : List Nat} (path : t.Path id ids) (path' : t.Path id ids') : ids = ids' := by
  induction path generalizing ids' with
  | outermost found outer =>
      cases path' with
      | outermost => rfl
      | outward found' parent => simp_all
  | outward found parent _ ih =>
      cases path' with
      | outermost found' outer => simp_all
      | outward found' parent' rest =>
          rw [found] at found'
          cases found'
          rw [parent] at parent'
          cases parent'
          rw [ih rest]

/-- A path stays where parents stay. -/
theorem mono {t' : Table} (path : t.Path id ids)
    (keeps : ∀ {i scope}, t.scope? i = some scope →
      ∃ after, t'.scope? i = some after ∧ after.parent = scope.parent) : t'.Path id ids := by
  induction path with
  | outermost found outer =>
      obtain ⟨after, found', parent'⟩ := keeps found
      exact .outermost found' (parent'.trans outer)
  | outward found parent _ ih =>
      obtain ⟨after, found', parent'⟩ := keeps found
      exact .outward found' (parent'.trans parent) ih

theorem valid (path : t.Path id ids) : ∀ k ∈ ids, k < t.scopes.length := by
  induction path with
  | outermost found => simpa using scope?_eq_some_lt found
  | outward found _ _ ih => simpa using ⟨scope?_eq_some_lt found, ih⟩

/-- A chain with room for the whole path is the path. -/
theorem chainFrom_eq (path : t.Path id ids) {bound : Nat} (room : ids.length ≤ bound) :
    t.chainFrom bound id = ids := by
  induction path generalizing bound with
  | outermost found outer =>
      match bound, room with
      | bound + 1, _ => simp [chainFrom, found, outer]
  | outward found parent _ ih =>
      match bound, room with
      | bound + 1, room => simp [chainFrom, found, parent, ih (Nat.le_of_succ_le_succ room)]

/-- A path goes through scopes that were entered earlier and earlier. -/
theorem decreasing (wf : t.WellFormed) (path : t.Path id ids) :
    ids.Pairwise (· > ·) ∧ ∀ k ∈ ids, k ≤ id := by
  induction path with
  | outermost => simp
  | outward found parent _ ih =>
      have lt := wf.lt_of_parent found parent
      constructor
      · exact List.pairwise_cons.mpr ⟨fun k mem => Nat.lt_of_le_of_lt (ih.2 k mem) lt, ih.1⟩
      · intro k mem
        rcases List.mem_cons.mp mem with rfl | mem
        · exact Nat.le_refl _
        · exact Nat.le_of_lt (Nat.lt_of_le_of_lt (ih.2 k mem) lt)

end Path

/-- Every scope has a way out, through at most as many scopes as were entered
before it. -/
theorem WellFormed.exists_path {t : Table} (wf : t.WellFormed) {id : Nat}
    (valid : id < t.scopes.length) : ∃ ids, t.Path id ids ∧ ids.length ≤ id + 1 := by
  induction id using Nat.strongRecOn with
  | ind id ih =>
      obtain ⟨scope, found⟩ := exists_scope? valid
      cases parent : scope.parent with
      | none => exact ⟨[id], .outermost found parent, by simp⟩
      | some p =>
          have lt := wf.lt_of_parent found parent
          obtain ⟨rest, path, short⟩ := ih p lt (Nat.lt_trans lt valid)
          refine ⟨id :: rest, .outward found parent path, ?_⟩
          simp only [List.length_cons]
          omega

/-- The chain of a table is the way out of its current scope. -/
theorem WellFormed.path_chain {t : Table} (wf : t.WellFormed) : t.Path t.current t.chain := by
  obtain ⟨ids, path, short⟩ := wf.exists_path wf.current_valid
  have room : ids.length ≤ t.scopes.length := Nat.le_trans short wf.current_valid
  rw [chain, path.chainFrom_eq room]
  exact path

namespace WellFormed

variable {t : Table}

theorem chain_eq (wf : t.WellFormed) {ids : List Nat} (path : t.Path t.current ids) :
    t.chain = ids :=
  wf.path_chain.unique path

theorem chain_nodup (wf : t.WellFormed) : t.chain.Nodup :=
  (wf.path_chain.decreasing wf).1.imp Nat.ne_of_gt

/-- A scope that was entered stands in front of the chain. -/
theorem chain_enter (wf : t.WellFormed) (label : String) :
    (t.enter label).chain = t.scopes.length :: t.chain := by
  refine (wf.enter label).chain_eq (.outward (scope?_enter_new label) rfl ?_)
  refine wf.path_chain.mono fun {i scope} found => ?_
  rw [scope?_enter_old label (scope?_eq_some_lt found), found]
  refine ⟨_, rfl, ?_⟩
  split <;> rfl

/-- Without a parent the current scope is the whole chain. -/
theorem chain_outermost (wf : t.WellFormed) (outer : t.currentScope.parent = none) :
    t.chain = [t.current] :=
  wf.chain_eq (.outermost wf.scope?_current outer)

/-- The chain goes on with the chain of the parent. -/
theorem chain_outward (wf : t.WellFormed) {parent : Nat}
    (outer : t.currentScope.parent = some parent) :
    t.chain = t.current :: chain { t with current := parent } := by
  have wf' : WellFormed { t with current := parent } := wf.exit (by rw [Table.exit, outer])
  refine wf.chain_eq (.outward wf.scope?_current outer ?_)
  exact wf'.path_chain.mono fun found => ⟨_, found, rfl⟩

end WellFormed

theorem chainFrom_updateSymbols {t : Table} (id : Nat) (f : NameMap Symbol → NameMap Symbol)
    (bound start : Nat) :
    (t.updateSymbols id f).chainFrom bound start = t.chainFrom bound start := by
  induction bound generalizing start with
  | zero => rfl
  | succ bound ih =>
      simp only [chainFrom, scope?_updateSymbols]
      cases t.scope? start with
      | none => rfl
      | some scope => simp only [Option.map_some, ih, apply_ite Scope.parent, ite_self]

/-- Symbols have no part in the chain. -/
@[simp] theorem chain_updateSymbols {t : Table} (id : Nat) (f : NameMap Symbol → NameMap Symbol) :
    (t.updateSymbols id f).chain = t.chain := by
  rw [chain, updateSymbols_length]
  exact chainFrom_updateSymbols id f _ _

/-! ### The search for a name -/

/-- `Search t name id visited result`: the search for `name` that starts in the
scope numbered `id` looks into the scopes `visited`, one after the other, and
ends with `result`. -/
inductive Search (t : Table) (name : String) : Nat → List Nat → Option Nat → Prop where
  | found {id : Nat} {scope : Scope} :
      t.scope? id = some scope → scope.symbols.contains name = true →
      Search t name id [id] (some id)
  | missed {id : Nat} {scope : Scope} :
      t.scope? id = some scope → scope.symbols.contains name = false → scope.parent = none →
      Search t name id [id] none
  | outward {id parent : Nat} {scope : Scope} {visited : List Nat} {result : Option Nat} :
      t.scope? id = some scope → scope.symbols.contains name = false →
      scope.parent = some parent → Search t name parent visited result →
      Search t name id (id :: visited) result

theorem declares_eq {t : Table} {id : Nat} {scope : Scope} (found : t.scope? id = some scope)
    (name : String) : t.declares name id = scope.symbols.contains name := by
  rw [declares, found]
  rfl

/-- A search that starts in a scope with the name ends there. -/
theorem search_of_contains {t : Table} {id : Nat} {scope : Scope} {name : String}
    (found : t.scope? id = some scope) (has : scope.symbols.contains name = true)
    (rest : List Nat) :
    ∃ visited, t.Search name id visited ((id :: rest).find? (t.declares name)) ∧
      visited <+: id :: rest := by
  refine ⟨[id], ?_, by simp⟩
  simpa [declares_eq found, has] using .found found has

/-- A search goes a part of the way out. -/
theorem Path.search {t : Table} {id : Nat} {ids : List Nat} (path : t.Path id ids)
    (name : String) : ∃ visited, t.Search name id visited (ids.find? (t.declares name)) ∧
      visited <+: ids := by
  induction path with
  | @outermost id scope found outer =>
      cases has : scope.symbols.contains name with
      | true => exact search_of_contains found has []
      | false =>
          refine ⟨[id], ?_, by simp⟩
          simpa [declares_eq found, has] using .missed found has outer
  | @outward id parent scope rest found outer _ ih =>
      cases has : scope.symbols.contains name with
      | true => exact search_of_contains found has rest
      | false =>
          obtain ⟨visited, search, part⟩ := ih
          refine ⟨id :: visited, ?_, by simpa using part⟩
          simpa [declares_eq found, has] using .outward found has outer search

/-! ### The traversal of the tree -/

mutual

/-- `Visits t id depth visits`: the depth-first traversal from the scope
numbered `id` ends, and its visits are the given ones, each with its depth. -/
inductive Visits (t : Table) : Nat → Nat → List (Nat × Nat) → Prop where
  | scope {id depth : Nat} {scope : Scope} {visits : List (Nat × Nat)} :
      t.scope? id = some scope → VisitsAll t scope.children (depth + 1) visits →
      Visits t id depth ((id, depth) :: visits)

/-- The traversals from scopes in a row. -/
inductive VisitsAll (t : Table) : List Nat → Nat → List (Nat × Nat) → Prop where
  | nil {depth : Nat} : VisitsAll t [] depth []
  | cons {id depth : Nat} {rest : List Nat} {visits others : List (Nat × Nat)} :
      Visits t id depth visits → VisitsAll t rest depth others →
      VisitsAll t (id :: rest) depth (visits ++ others)

end

theorem visitsAll_flatMap {t : Table} {depth : Nat} {visits : Nat → List (Nat × Nat)}
    {ids : List Nat} (each : ∀ id ∈ ids, t.Visits id depth (visits id)) :
    t.VisitsAll ids depth (ids.flatMap visits) := by
  induction ids with
  | nil => exact .nil
  | cons id rest ih =>
      exact .cons (each id (by simp)) (ih fun other mem => each other (by simp [mem]))

/-- Children are later scopes, so a traversal goes no deeper than there are
scopes behind its start. -/
theorem WellFormed.visits_traversalFrom {t : Table} (wf : t.WellFormed) {bound id : Nat}
    (valid : id < t.scopes.length) (room : t.scopes.length ≤ id + bound) (depth : Nat) :
    t.Visits id depth (t.traversalFrom bound id depth) := by
  induction bound generalizing id depth with
  | zero => omega
  | succ bound ih =>
      obtain ⟨scope, found⟩ := exists_scope? valid
      simp only [traversalFrom, found]
      refine .scope found (visitsAll_flatMap fun child mem => ?_)
      have later := wf.lt_of_child found mem
      exact ih (wf.children_valid found child mem) (by omega) (depth + 1)

theorem traversalFrom_valid {t : Table} {bound id depth : Nat} :
    ∀ visit ∈ t.traversalFrom bound id depth, visit.1 < t.scopes.length := by
  induction bound generalizing id depth with
  | zero => nofun
  | succ bound ih =>
      intro visit mem
      rw [traversalFrom] at mem
      cases found : t.scope? id with
      | none =>
          rw [found] at mem
          cases mem
      | some scope =>
          simp only [found, List.mem_cons, List.mem_flatMap] at mem
          rcases mem with rfl | ⟨child, -, mem⟩
          · exact scope?_eq_some_lt found
          · exact ih visit mem

/-- **The links of a table stay sound.** After any run of a new table there is a
scope, the table is well formed, and the scopes that are taken for the global
and for the current one are there. The search for any name ends with what
`resolve?` gives, after at most as many steps as the current scope has ancestors
and one more, and the traversal of the whole tree ends. Both go through scopes
of the table only. -/
theorem run_arena (ops : List Operation) :
    let t := new.run ops
    t.scopes ≠ [] ∧ t.WellFormed ∧
      t.scope? 0 = some t.global ∧ t.scope? t.current = some t.currentScope ∧
      (∃ ancestors, t.Path t.current (t.current :: ancestors) ∧
        ∀ name, ∃ visited, t.Search name t.current visited (t.resolve? name) ∧
          visited.length ≤ ancestors.length + 1 ∧ ∀ id ∈ visited, id < t.scopes.length) ∧
      t.Visits 0 0 t.traversal ∧ ∀ visit ∈ t.traversal, visit.1 < t.scopes.length := by
  intro t
  have wf : t.WellFormed := wellFormed_run ops
  have positive : 0 < t.scopes.length := Nat.zero_lt_of_lt wf.current_valid
  have path := wf.path_chain
  refine ⟨List.ne_nil_of_length_pos positive, wf, ?_, wf.scope?_current, ?_, ?_,
    traversalFrom_valid⟩
  · obtain ⟨scope, found⟩ := exists_scope? positive
    rw [global, found]
    rfl
  · obtain ⟨ancestors, whole⟩ := path.exists_ancestors
    refine ⟨ancestors, whole ▸ path, fun name => ?_⟩
    obtain ⟨visited, search, part⟩ := path.search name
    refine ⟨visited, search, ?_, fun id mem => path.valid id (part.subset mem)⟩
    rw [whole] at part
    exact part.length_le
  · exact wf.visits_traversalFrom positive (by simp) 0

end Table

end Scopewise
