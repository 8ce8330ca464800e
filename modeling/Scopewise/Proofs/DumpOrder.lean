/-
The dump of a symbol table goes through the scopes in the order in which they
were entered.

The dump follows the lists of children from the global scope, depth first. A
scope that was left is never entered again, so the current scope is always
reached from the global one by going to the latest child again and again
(`Table.Rightmost`). Hence a new scope, which becomes the latest child of the
current one, is the last to be visited, and nothing else about the traversal
changes (`Table.Rightmost.grows`). After any run of operations the traversal is
therefore a plain count from 0 (`Table.ordered_run`), and what the dump shows
and what the statistics count are the same (`Table.run_dumps_in_order`).
-/

import Scopewise.Proofs.TableRuns

namespace Scopewise

/-! ### The entries of a dump -/

/-- One entry of a dump. -/
inductive DumpEntry where
  | scope (name : String) (depth : Nat)
  | symbol (held : Symbol) (depth : Nat)
deriving DecidableEq, Repr

namespace DumpEntry

/-- How an entry is written: behind two blanks for each level of its depth, and
a symbol one level deeper than its scope. -/
def line : DumpEntry → String
  | .scope name depth => String.ofList (List.replicate (2 * depth) ' ') ++ "Scope: " ++ name
  | .symbol held depth => String.ofList (List.replicate (2 * (depth + 1)) ' ') ++ held.text

/-- The name of the scope, if the entry is one of a scope. -/
def scopeName? : DumpEntry → Option String
  | .scope name _ => some name
  | .symbol .. => none

/-- The symbol, if the entry is one of a symbol. -/
def symbol? : DumpEntry → Option Symbol
  | .scope .. => none
  | .symbol held _ => some held

end DumpEntry

namespace Table

/-- The entries of one scope: its own, then those of its symbols. -/
def scopeEntries (scope : Scope) (depth : Nat) : List DumpEntry :=
  .scope scope.name depth :: scope.symbols.values.map (.symbol · depth)

/-- The entries of one visit. -/
def entriesAt (t : Table) (visit : Nat × Nat) : List DumpEntry :=
  match t.scope? visit.1 with
  | none => []
  | some scope => scopeEntries scope visit.2

/-- The entries of the whole dump. -/
def dumpEntries (t : Table) : List DumpEntry := t.traversal.flatMap t.entriesAt

theorem indent_succ (depth : Nat) : indent (depth + 1) = indent depth ++ "  " := by
  rw [indent, List.replicate_succ', String.join_append]
  rfl

/-- Each level of the indentation is two blanks. -/
theorem indent_eq (depth : Nat) :
    indent depth = String.ofList (List.replicate (2 * depth) ' ') := by
  induction depth with
  | zero => rfl
  | succ depth ih =>
      rw [indent_succ, ih, Nat.mul_succ, ← List.replicate_append_replicate, String.ofList_append]
      rfl

/-- The dump is its entries, one below the other. -/
theorem dumpLines_eq (t : Table) :
    t.dumpLines = "=== SYMBOL TABLE ===" :: t.dumpEntries.map DumpEntry.line := by
  have visited (visit : Nat × Nat) :
      (t.entriesAt visit).map DumpEntry.line =
        match t.scope? visit.1 with
        | none => []
        | some scope => scopeLines scope visit.2 := by
    unfold entriesAt
    cases t.scope? visit.1 with
    | none => rfl
    | some scope => simp [scopeEntries, scopeLines, DumpEntry.line, ← indent_eq, indent_succ]
  rw [dumpLines, dumpEntries, List.map_flatMap]
  exact congrArg (_ :: List.flatMap · _) (funext fun visit => (visited visit).symm)

/-- What is picked from each scope alike is picked from the visited scopes in
the order of the visits. -/
theorem filterMap_entriesAt {t : Table} {β : Type} {pick : DumpEntry → Option β}
    {picked : Scope → List β}
    (each : ∀ scope depth, (scopeEntries scope depth).filterMap pick = picked scope)
    (visits : List (Nat × Nat)) :
    (visits.flatMap t.entriesAt).filterMap pick =
      ((visits.map (·.1)).filterMap t.scope?).flatMap picked := by
  induction visits with
  | nil => rfl
  | cons visit rest ih =>
      rw [List.flatMap_cons, List.filterMap_append, ih, List.map_cons, List.filterMap_cons,
        entriesAt]
      cases t.scope? visit.1 with
      | none => rfl
      | some scope => simp only [each, List.flatMap_cons]

theorem filterMap_scope?_range (t : Table) :
    (List.range t.scopes.length).filterMap t.scope? = t.scopes := by
  have found : (List.range t.scopes.length).map t.scope? = t.scopes.map some := by
    refine List.ext_getElem (by simp) ?_
    intro i _ _
    simp [scope?]
  calc (List.range t.scopes.length).filterMap t.scope?
      = ((List.range t.scopes.length).map t.scope?).filterMap id := by
        rw [List.filterMap_map, Function.id_comp]
    _ = (t.scopes.map some).filterMap id := by rw [found]
    _ = t.scopes := by rw [List.filterMap_map, Function.id_comp, List.filterMap_some]

/-! ### Traversals -/

/-- The scope numbered `id` has `depth` ancestors. -/
def HasDepth (t : Table) (id depth : Nat) : Prop :=
  ∃ ancestors, t.Path id (id :: ancestors) ∧ ancestors.length = depth

/-- A child has one ancestor more. -/
theorem HasDepth.child {t : Table} (wf : t.WellFormed) {id child depth : Nat} {scope : Scope}
    (parent : t.HasDepth id depth) (found : t.scope? id = some scope)
    (listed : child ∈ scope.children) : t.HasDepth child (depth + 1) := by
  obtain ⟨ancestors, path, length⟩ := parent
  obtain ⟨other, found', outer⟩ := wf.parent_of_child found listed
  exact ⟨id :: ancestors, .outward found' outer path, by simp [length]⟩

/-- The scope numbered `i` has the same children in another table. -/
def KeepsChildren (t t' : Table) (i : Nat) : Prop :=
  ∀ {scope}, t.scope? i = some scope →
    ∃ after, t'.scope? i = some after ∧ after.children = scope.children

theorem keepsChildren_updateSymbols (t : Table) (id : Nat) (f : NameMap Symbol → NameMap Symbol)
    (i : Nat) : t.KeepsChildren (t.updateSymbols id f) i := by
  intro scope found
  rw [scope?_updateSymbols, found]
  refine ⟨_, rfl, ?_⟩
  split <;> rfl

theorem keepsChildren_withCurrent (t : Table) (id i : Nat) :
    t.KeepsChildren { t with current := id } i := by
  intro scope found
  exact ⟨scope, found, rfl⟩

/-- Only the current scope gets a new child. -/
theorem keepsChildren_enter (t : Table) (label : String) {i : Nat} (other : i ≠ t.current) :
    t.KeepsChildren (t.enter label) i := by
  intro scope found
  rw [scope?_enter_old label (scope?_eq_some_lt found), found]
  exact ⟨scope, by simp [other.symm], rfl⟩

mutual

/-- A traversal stays where children stay. -/
theorem Visits.mono {t t' : Table} : ∀ {id depth : Nat} {visits : List (Nat × Nat)},
    t.Visits id depth visits → (∀ visit ∈ visits, t.KeepsChildren t' visit.1) →
    t'.Visits id depth visits
  | _, _, _, .scope found all, keeps => by
      obtain ⟨after, found', children⟩ := keeps _ (List.mem_cons_self ..) found
      refine .scope found' ?_
      rw [children]
      exact all.mono fun visit mem => keeps visit (List.mem_cons_of_mem _ mem)

theorem VisitsAll.mono {t t' : Table} : ∀ {ids : List Nat} {depth : Nat}
    {visits : List (Nat × Nat)}, t.VisitsAll ids depth visits →
    (∀ visit ∈ visits, t.KeepsChildren t' visit.1) → t'.VisitsAll ids depth visits
  | _, _, _, .nil, _ => .nil
  | _, _, _, .cons first others, keeps =>
      .cons (first.mono fun visit mem => keeps visit (List.mem_append_left _ mem))
        (others.mono fun visit mem => keeps visit (List.mem_append_right _ mem))

end

mutual

/-- There is only one traversal. -/
theorem Visits.unique {t : Table} : ∀ {id depth : Nat} {visits visits' : List (Nat × Nat)},
    t.Visits id depth visits → t.Visits id depth visits' → visits = visits'
  | _, _, _, _, .scope found all, .scope found' all' => by
      cases found.symm.trans found'
      rw [all.unique all']

theorem VisitsAll.unique {t : Table} : ∀ {ids : List Nat} {depth : Nat}
    {visits visits' : List (Nat × Nat)}, t.VisitsAll ids depth visits →
    t.VisitsAll ids depth visits' → visits = visits'
  | _, _, _, _, .nil, .nil => rfl
  | _, _, _, _, .cons first others, .cons first' others' => by
      rw [first.unique first', others.unique others']

end

mutual

/-- A traversal visits its start and later scopes. -/
theorem Visits.le {t : Table} (wf : t.WellFormed) : ∀ {id depth : Nat}
    {visits : List (Nat × Nat)}, t.Visits id depth visits → ∀ visit ∈ visits, id ≤ visit.1
  | _, _, _, .scope found all, visit, mem => by
      rcases List.mem_cons.mp mem with rfl | mem
      · exact Nat.le_refl _
      · obtain ⟨child, listed, le⟩ := all.le wf visit mem
        exact Nat.le_trans (Nat.le_of_lt (wf.lt_of_child found listed)) le

theorem VisitsAll.le {t : Table} (wf : t.WellFormed) : ∀ {ids : List Nat} {depth : Nat}
    {visits : List (Nat × Nat)}, t.VisitsAll ids depth visits →
    ∀ visit ∈ visits, ∃ id ∈ ids, id ≤ visit.1
  | _, _, _, .cons first others, visit, mem => by
      rcases List.mem_append.mp mem with mem | mem
      · exact ⟨_, List.mem_cons_self .., first.le wf visit mem⟩
      · obtain ⟨id, listed, le⟩ := others.le wf visit mem
        exact ⟨id, List.mem_cons_of_mem _ listed, le⟩

end

mutual

/-- A traversal that starts as deep as its start has ancestors stays that deep
everywhere. -/
theorem Visits.depth_eq {t : Table} (wf : t.WellFormed) : ∀ {id depth : Nat}
    {visits : List (Nat × Nat)}, t.Visits id depth visits → t.HasDepth id depth →
    ∀ visit ∈ visits, t.HasDepth visit.1 visit.2
  | _, _, _, .scope found all, start, visit, mem => by
      rcases List.mem_cons.mp mem with rfl | mem
      · exact start
      · exact all.depth_eq wf (fun child listed => start.child wf found listed) visit mem

theorem VisitsAll.depth_eq {t : Table} (wf : t.WellFormed) : ∀ {ids : List Nat} {depth : Nat}
    {visits : List (Nat × Nat)}, t.VisitsAll ids depth visits →
    (∀ id ∈ ids, t.HasDepth id depth) → ∀ visit ∈ visits, t.HasDepth visit.1 visit.2
  | _, _, _, .cons first others, starts, visit, mem => by
      rcases List.mem_append.mp mem with mem | mem
      · exact first.depth_eq wf (starts _ (List.mem_cons_self ..)) visit mem
      · exact others.depth_eq wf (fun id listed => starts id (List.mem_cons_of_mem _ listed))
          visit mem

end

theorem VisitsAll.append {t : Table} : ∀ {ids ids' : List Nat} {depth : Nat}
    {visits visits' : List (Nat × Nat)}, t.VisitsAll ids depth visits →
    t.VisitsAll ids' depth visits' → t.VisitsAll (ids ++ ids') depth (visits ++ visits')
  | _, _, _, _, _, .nil, back => back
  | _, _, _, _, _, .cons first others, back => by
      rw [List.append_assoc]
      exact .cons first (others.append back)

/-- The traversals from scopes in a row can be taken apart at every place. -/
theorem VisitsAll.split {t : Table} {ids ids' : List Nat} {depth : Nat}
    {visits : List (Nat × Nat)} (traversed : t.VisitsAll (ids ++ ids') depth visits) :
    ∃ front back, visits = front ++ back ∧ t.VisitsAll ids depth front ∧
      t.VisitsAll ids' depth back := by
  induction ids generalizing visits with
  | nil => exact ⟨[], visits, rfl, .nil, traversed⟩
  | cons id rest ih =>
      cases traversed with
      | cons first others =>
          obtain ⟨front, back, rfl, all, all'⟩ := ih others
          exact ⟨_, back, (List.append_assoc ..).symm, .cons first all, all'⟩

namespace WellFormed

variable {t : Table}

theorem visits_traversal (wf : t.WellFormed) : t.Visits 0 0 t.traversal :=
  wf.visits_traversalFrom (Nat.zero_lt_of_lt wf.current_valid) (by simp) 0

theorem traversal_eq (wf : t.WellFormed) {visits : List (Nat × Nat)}
    (traversed : t.Visits 0 0 visits) : t.traversal = visits :=
  wf.visits_traversal.unique traversed

/-- A table with the same children has the same traversal. -/
theorem traversal_eq_of_keepsChildren (wf : t.WellFormed) {t' : Table} (wf' : t'.WellFormed)
    (keeps : ∀ i, t.KeepsChildren t' i) : t'.traversal = t.traversal :=
  wf'.traversal_eq (wf.visits_traversal.mono fun visit _ => keeps visit.1)

end WellFormed

/-! ### A new scope in a traversal -/

section Growth

variable {t : Table} {label : String} {id : Nat}

/-- The traversal from the scope numbered `id` comes through the current scope
and, behind `enter`, goes to the new scope last. -/
def Grows (t : Table) (label : String) (id : Nat) : Prop :=
  ∀ ⦃depth visits⦄, t.Visits id depth visits → (visits.map (·.1)).Nodup →
    t.current ∈ visits.map (·.1) ∧
      ∃ last, (t.enter label).Visits id depth (visits ++ [(t.scopes.length, last)])

/-- The current scope gets the new one as its latest child. -/
theorem WellFormed.scope?_enter_current (wf : t.WellFormed) (label : String) :
    (t.enter label).scope? t.current =
      some { t.currentScope with
        children := t.currentScope.children ++ [t.scopes.length] } := by
  rw [scope?_enter_old label wf.current_valid, wf.scope?_current, Option.map_some, if_pos rfl]

theorem WellFormed.grows_current (wf : t.WellFormed) (label : String) :
    t.Grows label t.current := by
  intro depth visits traversed _
  cases traversed with
  | @scope _ _ _ visits found all =>
      refine ⟨by simp, depth + 1, ?_⟩
      cases wf.scope?_current.symm.trans found
      have old : (t.enter label).VisitsAll t.currentScope.children (depth + 1) visits := by
        refine all.mono fun visit mem => keepsChildren_enter t label ?_
        obtain ⟨child, listed, le⟩ := all.le wf visit mem
        exact Nat.ne_of_gt (Nat.lt_of_lt_of_le (wf.lt_of_child found listed) le)
      have new : (t.enter label).VisitsAll [t.scopes.length] (depth + 1)
          [(t.scopes.length, depth + 1)] := .cons (.scope (scope?_enter_new label) .nil) .nil
      exact .scope (wf.scope?_enter_current label) (old.append new)

/-- What grows below the latest child grows below its parent. -/
theorem Grows.parent {child : Nat} {scope : Scope} {earlier : List Nat}
    (grows : t.Grows label child) (found : t.scope? id = some scope)
    (latest : scope.children = earlier ++ [child]) : t.Grows label id := by
  intro depth visits traversed nodup
  cases traversed with
  | scope found' all =>
      cases found.symm.trans found'
      rw [latest] at all
      obtain ⟨front, back, rfl, before, behind⟩ := all.split
      cases behind with
      | cons first none =>
          cases none
          simp only [List.append_nil, List.map_cons, List.map_append, List.nodup_cons,
            List.nodup_append, List.mem_append, not_or] at nodup ⊢
          obtain ⟨⟨-, notBelow⟩, -, nodup, apart⟩ := nodup
          obtain ⟨within, last, first'⟩ := grows first nodup
          refine ⟨by simp [within], last, ?_⟩
          -- No other scope on the way is the current one, so they keep their children.
          have other : id ≠ t.current := fun same => notBelow (same ▸ within)
          obtain ⟨after, held, children⟩ := keepsChildren_enter t label other found
          rw [List.cons_append, List.append_assoc]
          refine .scope held ?_
          rw [children, latest]
          refine (before.mono fun visit mem => keepsChildren_enter t label ?_).append ?_
          · exact apart visit.1 (List.mem_map_of_mem mem) _ within
          · simpa using VisitsAll.cons first' .nil

/-- `Rightmost t id`: the scope numbered `id` is reached from the global one by
going to the latest child again and again. -/
inductive Rightmost (t : Table) : Nat → Prop where
  | global : Rightmost t 0
  | latest {id child : Nat} {scope : Scope} {earlier : List Nat} :
      Rightmost t id → t.scope? id = some scope → scope.children = earlier ++ [child] →
      Rightmost t child

namespace Rightmost

theorem grows (rightmost : t.Rightmost id) (below : t.Grows label id) : t.Grows label 0 := by
  induction rightmost with
  | global => exact below
  | latest _ found children ih => exact ih (below.parent found children)

/-- The way to a scope only goes through earlier ones. -/
theorem mono (wf : t.WellFormed) {t' : Table} (rightmost : t.Rightmost id)
    (keeps : ∀ i < id, t.KeepsChildren t' i) : t'.Rightmost id := by
  induction rightmost with
  | global => exact .global
  | @latest _ child scope _ _ found latest ih =>
      have listed : child ∈ scope.children := by simp [latest]
      have lt := wf.lt_of_child found listed
      obtain ⟨after, found', children⟩ := keeps _ lt found
      exact .latest (ih fun i lt' => keeps i (Nat.lt_trans lt' lt)) found'
        (children.trans latest)

/-- A scope is the child of one parent only, so the way to it goes through that
parent. -/
theorem parent (wf : t.WellFormed) (rightmost : t.Rightmost id) {scope : Scope} {parent : Nat}
    (found : t.scope? id = some scope) (outer : scope.parent = some parent) :
    t.Rightmost parent := by
  cases rightmost with
  | global =>
      rw [wf.global_parent found] at outer
      cases outer
  | @latest _ _ scope' _ above held latest =>
      have listed : id ∈ scope'.children := by simp [latest]
      obtain ⟨other, found', outer'⟩ := wf.parent_of_child held listed
      cases found.symm.trans found'
      cases outer.symm.trans outer'
      exact above

theorem enter (wf : t.WellFormed) (rightmost : t.Rightmost t.current) (label : String) :
    (t.enter label).Rightmost (t.enter label).current := by
  refine .latest (rightmost.mono wf fun i lt => ?_) (wf.scope?_enter_current label) rfl
  exact keepsChildren_enter t label (Nat.ne_of_lt lt)

end Rightmost

end Growth

/-! ### The order of a run -/

/-- What an operation can do to the tree of scopes. -/
inductive TreeStep (t t' : Table) : Prop where
  | entered (label : String) : t' = t.enter label → TreeStep t t'
  | left {parent : Nat} :
      t.currentScope.parent = some parent → t' = { t with current := parent } → TreeStep t t'
  | kept : t'.current = t.current → t'.scopes.length = t.scopes.length →
      (∀ i, t.KeepsChildren t' i) → TreeStep t t'
  | cleared : t' = new → TreeStep t t'

namespace TreeStep

variable {t : Table}

theorem refl (t : Table) : TreeStep t t :=
  .kept rfl rfl fun _ scope found => ⟨scope, found, rfl⟩

theorem updateSymbols (t : Table) (id : Nat) (f : NameMap Symbol → NameMap Symbol) :
    TreeStep t (t.updateSymbols id f) :=
  .kept rfl updateSymbols_length (keepsChildren_updateSymbols t id f)

theorem of_step {op : Operation} {answer : Answer} {t' : Table} (step : Step t op answer t') :
    TreeStep t t' := by
  cases step with
  | entered label => exact .entered label rfl
  | left outer => exact .left outer rfl
  | declared | assigned => exact updateSymbols t ..
  | outermost | duplicate | missed => exact refl t
  | cleared => exact .cleared rfl

end TreeStep

/-- The scopes are visited in the order in which they were entered, and the
current one is where the next one comes last. -/
structure Ordered (t : Table) : Prop where
  wellFormed : t.WellFormed
  rightmost : t.Rightmost t.current
  visited : t.traversal.map (·.1) = List.range t.scopes.length

namespace Ordered

variable {t : Table}

theorem new : Table.new.Ordered := ⟨wellFormed_new, .global, rfl⟩

theorem enter (ordered : t.Ordered) (label : String) : (t.enter label).Ordered := by
  have wf := ordered.wellFormed
  refine ⟨wf.enter label, ordered.rightmost.enter wf label, ?_⟩
  have nodup : (t.traversal.map (·.1)).Nodup := ordered.visited ▸ List.nodup_range
  obtain ⟨-, last, traversed⟩ :=
    ordered.rightmost.grows (wf.grows_current label) wf.visits_traversal nodup
  rw [(wf.enter label).traversal_eq traversed, List.map_append, ordered.visited, enter_length,
    List.range_succ]
  rfl

theorem step (ordered : t.Ordered) {t' : Table} (wf' : t'.WellFormed) (step : TreeStep t t') :
    t'.Ordered := by
  have wf := ordered.wellFormed
  cases step with
  | entered label entered => exact entered ▸ ordered.enter label
  | left outer left =>
      subst left
      have keeps := keepsChildren_withCurrent t
      refine ⟨wf', ?_, ?_⟩
      · exact (ordered.rightmost.parent wf wf.scope?_current outer).mono wf fun i _ => keeps _ i
      · rw [wf.traversal_eq_of_keepsChildren wf' (keeps _)]
        exact ordered.visited
  | kept current length keeps =>
      refine ⟨wf', ?_, ?_⟩
      · rw [current]
        exact ordered.rightmost.mono wf fun i _ => keeps i
      · rw [wf.traversal_eq_of_keepsChildren wf' keeps, length]
        exact ordered.visited
  | cleared cleared => exact cleared ▸ new

end Ordered

theorem ordered_run (ops : List Operation) : (new.run ops).Ordered := by
  refine run_induction .new (fun t op ordered => ?_) ops
  exact ordered.step (ordered.wellFormed.perform op) (.of_step (.perform t op))

/-! ### What a dump shows -/

/-- Symbols that are kept under their names are listed once each, in name
order. -/
theorem WellFormed.values_ordered {t : Table} (wf : t.WellFormed) {scope : Scope}
    (mem : scope ∈ t.scopes) :
    scope.symbols.values.Pairwise (fun a b => a.name < b.name) ∧
      ∀ symbol, symbol ∈ scope.symbols.values ↔
        scope.symbols.get? symbol.name = some symbol := by
  obtain ⟨i, found⟩ := List.mem_iff_getElem?.mp mem
  have keyed : ∀ e ∈ scope.symbols.entries, e.2.name = e.1 := fun e listed =>
    wf.keys_eq found e.1 e.2 (NameMap.get?_eq_some_iff.mpr listed)
  constructor
  · refine List.pairwise_map.mpr (scope.symbols.ordered.imp_of_mem ?_)
    intro a b listed listed' lt
    rw [keyed a listed, keyed b listed']
    exact lt
  · intro symbol
    rw [NameMap.get?_eq_some_iff, NameMap.values, List.mem_map]
    constructor
    · rintro ⟨e, listed, rfl⟩
      rw [keyed e listed]
      exact listed
    · intro listed
      exact ⟨_, listed, rfl⟩

/-- What the dump of a table shows. -/
structure DumpsInOrder (t : Table) : Prop where
  /-- The dump goes depth first through the tree of scopes. -/
  traversed : t.Visits 0 0 t.traversal
  /-- Every scope is visited once, in the order in which they were entered. -/
  visited : t.traversal.map (·.1) = List.range t.scopes.length
  /-- Every scope is shown as deep as it has ancestors. -/
  depth : ∀ visit ∈ t.traversal, t.HasDepth visit.1 visit.2
  /-- The symbols of a scope are listed once each, in name order. -/
  listed : ∀ scope ∈ t.scopes, scope.symbols.values.Pairwise (fun a b => a.name < b.name) ∧
    ∀ symbol, symbol ∈ scope.symbols.values ↔ scope.symbols.get? symbol.name = some symbol
  /-- The text is a header with the entries of the visits below it. -/
  text : t.dump = "\n".intercalate ("=== SYMBOL TABLE ===" :: t.dumpEntries.map DumpEntry.line)
  scopes : t.dumpEntries.filterMap DumpEntry.scopeName? = t.scopes.map (·.name)
  symbols : t.dumpEntries.filterMap DumpEntry.symbol? = t.scopes.flatMap (·.symbols.values)
  totalScopes :
    (t.dumpEntries.filterMap DumpEntry.scopeName?).length = t.statistics.totalScopes
  totalSymbols : (t.dumpEntries.filterMap DumpEntry.symbol?).length = t.statistics.totalSymbols

namespace Ordered

variable {t : Table}

/-- What is picked from each scope alike is picked in the order of the scopes. -/
theorem filterMap_dumpEntries (ordered : t.Ordered) {β : Type} {pick : DumpEntry → Option β}
    {picked : Scope → List β}
    (each : ∀ scope depth, (scopeEntries scope depth).filterMap pick = picked scope) :
    t.dumpEntries.filterMap pick = t.scopes.flatMap picked := by
  rw [dumpEntries, filterMap_entriesAt each, ordered.visited, filterMap_scope?_range]

theorem filterMap_scopeName? (ordered : t.Ordered) :
    t.dumpEntries.filterMap DumpEntry.scopeName? = t.scopes.map (·.name) := by
  have each : ∀ scope depth,
      (scopeEntries scope depth).filterMap DumpEntry.scopeName? = [scope.name] := by
    intro scope depth
    simp [scopeEntries, DumpEntry.scopeName?]
  rw [ordered.filterMap_dumpEntries each, List.map_eq_flatMap]

theorem filterMap_symbol? (ordered : t.Ordered) :
    t.dumpEntries.filterMap DumpEntry.symbol? = t.scopes.flatMap (·.symbols.values) := by
  refine ordered.filterMap_dumpEntries ?_
  intro scope depth
  rw [scopeEntries, List.filterMap_cons_none rfl, List.filterMap_map]
  exact List.filterMap_some

end Ordered

/-- **A dump goes through the scopes in the order in which they were entered.**
After any run of a new table the depth-first traversal is a count from 0 to the
latest scope, each scope stands as deep as it has ancestors and lists its
symbols once each in name order, and the entries of the dump are as many as the
statistics say. -/
theorem run_dumps_in_order (ops : List Operation) : (new.run ops).DumpsInOrder := by
  have ordered := ordered_run ops
  have wf := ordered.wellFormed
  refine
    { traversed := wf.visits_traversal
      visited := ordered.visited
      depth := ?_
      listed := fun scope mem => wf.values_ordered mem
      text := by rw [dump, dumpLines_eq]
      scopes := ordered.filterMap_scopeName?
      symbols := ordered.filterMap_symbol?
      totalScopes := ?_
      totalSymbols := ?_ }
  · obtain ⟨scope, found⟩ := exists_scope? (Nat.zero_lt_of_lt wf.current_valid)
    exact wf.visits_traversal.depth_eq wf ⟨[], .outermost found (wf.global_parent found), rfl⟩
  · rw [ordered.filterMap_scopeName?, List.length_map]
    rfl
  · rw [ordered.filterMap_symbol?]
    simp [statistics, NameMap.values]

-- Two scopes inside each other, and a third one beside them.
example : (new.run [.enter "a", .enter "b", .exit, .exit, .enter "c"]).traversal =
    [(0, 0), (1, 1), (2, 2), (3, 1)] := by decide

end Table

end Scopewise
