/-
A symbol table is a stack of maps.

Most of a table is of no concern to the name that is looked up: scopes that
were left, lists of children, numbers and names of scopes. What counts is the
maps of symbols on the way out of the current scope, `Table.maps`. A `Stack` is
such a list of maps and nothing else, with the operations that one would write
down for it at once: enter pushes an empty map, exit pops, a declaration goes
into the innermost map, and a name is found in the innermost map that has it.

After every run of operations the table answers as the stack does, and its maps
are those of the stack (`run_refines_stack`). The proof keeps `Table.Shows`
along the run.
-/

import Scopewise.Proofs.TableRuns
import Mathlib.Data.List.Basic

namespace Scopewise

/-! ### Stacks of maps -/

/-- Maps of symbols, innermost first. There is always one. -/
structure Stack where
  top : NameMap Symbol
  outer : List (NameMap Symbol)
deriving DecidableEq

/-- How an operation on a stack ends. -/
inductive Verdict where
  | done
  | duplicateInScope (name : String)
  | cannotExitGlobal
  /-- Whether the name that is assigned was found. -/
  | assigned (found : Bool)
deriving DecidableEq, Repr

namespace Stack

/-- One empty map. -/
def new : Stack := ⟨.empty, []⟩

def toList (s : Stack) : List (NameMap Symbol) := s.top :: s.outer

/-- What the innermost map with a name holds under it. -/
def lookup? (s : Stack) (name : String) : Option Symbol := s.toList.findSome? (·.get? name)

/-- A symbol goes into the innermost map, unless that map has its name. -/
def declare (s : Stack) (symbol : Symbol) : Verdict × Stack :=
  if s.top.contains symbol.name then (.duplicateInScope symbol.name, s)
  else (.done, { s with top := s.top.insert symbol.name symbol })

/-- Stores a value under a name in the first of the maps that has the name. -/
def assignIn? (name : String) (value : Option Constant) :
    List (NameMap Symbol) → Option (List (NameMap Symbol))
  | [] => none
  | m :: rest =>
      match m.get? name with
      | some symbol => some (m.insert name { symbol with value, initialized := true } :: rest)
      | none => (assignIn? name value rest).map (m :: ·)

/-- Carries out an operation on a stack. -/
def perform (s : Stack) : Operation → Verdict × Stack
  | .enter _ => (.done, ⟨.empty, s.toList⟩)
  | .exit =>
      match s.outer with
      | [] => (.cannotExitGlobal, s)
      | next :: rest => (.done, ⟨next, rest⟩)
  | .declare name type place =>
      s.declare { name, type, value := none, initialized := false, declaredAt := place }
  | .declareWithValue name type value place =>
      s.declare { name, type, value, initialized := true, declaredAt := place }
  | .assign name value =>
      -- A changed list has as many maps as before, so it is not empty.
      match assignIn? name value s.toList with
      | some (top :: outer) => (.assigned true, ⟨top, outer⟩)
      | _ => (.assigned false, s)
  | .reset => (.done, new)

/-- Carries out operations one after the other. -/
def run (s : Stack) (ops : List Operation) : Stack := ops.foldl (fun s op => (s.perform op).2) s

end Stack

namespace Answer

/-- An answer without the numbers and names of scopes, which a stack does not
have. -/
def verdict : Answer → Verdict
  | .entered _ | .left _ | .declared | .cleared => .done
  | .refused (.duplicateInScope name _) => .duplicateInScope name
  | .refused .cannotExitGlobal => .cannotExitGlobal
  | .assigned found => .assigned found

/-- Whether an operation could not be carried out. -/
def failed : Answer → Bool
  | .refused _ | .assigned false => true
  | _ => false

end Answer

/-! ### The maps of a table -/

namespace Table

/-- The maps of symbols of the given scopes. -/
def mapsOf (t : Table) (ids : List Nat) : List (NameMap Symbol) :=
  ids.filterMap fun id => (t.scope? id).map (·.symbols)

/-- The maps of symbols on the way out of the current scope. -/
def maps (t : Table) : List (NameMap Symbol) := t.mapsOf t.chain

section Maps

variable {t : Table}

theorem mapsOf_cons {id : Nat} {scope : Scope} (found : t.scope? id = some scope)
    (rest : List Nat) : t.mapsOf (id :: rest) = scope.symbols :: t.mapsOf rest := by
  simp [mapsOf, found]

theorem mapsOf_congr {t' : Table} {ids : List Nat}
    (same : ∀ id ∈ ids, (t'.scope? id).map (·.symbols) = (t.scope? id).map (·.symbols)) :
    t'.mapsOf ids = t.mapsOf ids :=
  List.filterMap_congr same

/-- A change in one scope does not reach the maps of other scopes. -/
theorem mapsOf_updateSymbols {id : Nat} {f : NameMap Symbol → NameMap Symbol} {ids : List Nat}
    (apart : id ∉ ids) : (t.updateSymbols id f).mapsOf ids = t.mapsOf ids := by
  refine mapsOf_congr fun other mem => ?_
  have different : id ≠ other := fun same => apart (same ▸ mem)
  simp [scope?_updateSymbols, different]

theorem mapsOf_updateSymbols_cons {id : Nat} {scope : Scope} (found : t.scope? id = some scope)
    {rest : List Nat} (apart : id ∉ rest) (f : NameMap Symbol → NameMap Symbol) :
    (t.updateSymbols id f).mapsOf (id :: rest) = f scope.symbols :: t.mapsOf rest := by
  have changed : (t.updateSymbols id f).scope? id =
      some { scope with symbols := f scope.symbols } := by
    simp [scope?_updateSymbols, found]
  rw [mapsOf_cons changed, mapsOf_updateSymbols apart]

/-- Looking for a name scope by scope is looking for it map by map. -/
theorem findSome?_mapsOf (name : String) {ids : List Nat}
    (valid : ∀ id ∈ ids, id < t.scopes.length) :
    (t.mapsOf ids).findSome? (·.get? name) =
      (ids.find? (t.declares name)).bind fun id =>
        (t.scope? id).bind fun scope => scope.symbols.get? name := by
  induction ids with
  | nil => rfl
  | cons id rest ih =>
      obtain ⟨scope, found⟩ := exists_scope? (valid id (by simp))
      have ih := ih fun other mem => valid other (by simp [mem])
      rw [mapsOf_cons found, List.findSome?_cons, List.find?_cons, declares_eq found,
        NameMap.contains]
      cases held : scope.symbols.get? name with
      | none => exact ih
      | some symbol => simp [found, held]

/-- Storing in the innermost scope that declares a name is storing in the
innermost map that has it. -/
theorem assignIn?_mapsOf (name : String) (value : Option Constant) {ids : List Nat}
    (valid : ∀ id ∈ ids, id < t.scopes.length) (distinct : ids.Nodup) :
    Stack.assignIn? name value (t.mapsOf ids) =
      (ids.find? (t.declares name)).map fun id =>
        (t.updateSymbols id (·.modify name (·.store value))).mapsOf ids := by
  induction ids with
  | nil => rfl
  | cons id rest ih =>
      obtain ⟨scope, found⟩ := exists_scope? (valid id (by simp))
      obtain ⟨apart, distinct⟩ := List.nodup_cons.mp distinct
      have ih := ih (fun other mem => valid other (by simp [mem])) distinct
      rw [mapsOf_cons found, Stack.assignIn?, List.find?_cons, declares_eq found, NameMap.contains]
      cases held : scope.symbols.get? name with
      | some symbol =>
          simp only [Option.isSome_some, Option.map_some]
          rw [mapsOf_updateSymbols_cons found apart, NameMap.modify_eq_insert held]
          rfl
      | none =>
          simp only [Option.isSome_none]
          rw [ih, Option.map_map]
          -- The scope that is found lies further out, so this map stays.
          refine Option.map_congr fun other mem => ?_
          have different : other ≠ id := fun same => apart (same ▸ List.mem_of_find?_eq_some mem)
          have kept : (t.updateSymbols other (·.modify name (·.store value))).scope? id =
              some scope := by
            simp [scope?_updateSymbols, found, different]
          rw [mapsOf_cons kept]
          rfl

end Maps

/-! ### The simulation -/

/-- The table is well formed, and its maps are those of the stack. -/
structure Shows (t : Table) (s : Stack) : Prop where
  wellFormed : t.WellFormed
  maps : t.maps = s.toList

/-- The map of the current scope comes first, and the scope does not come again
further out. -/
theorem WellFormed.maps_eq {t : Table} (wf : t.WellFormed) :
    ∃ ancestors, t.chain = t.current :: ancestors ∧ t.current ∉ ancestors ∧
      t.maps = t.currentScope.symbols :: t.mapsOf ancestors := by
  obtain ⟨ancestors, whole⟩ := wf.path_chain.exists_ancestors
  refine ⟨ancestors, whole, (List.nodup_cons.mp (whole ▸ wf.chain_nodup)).1, ?_⟩
  rw [maps, whole, mapsOf_cons wf.scope?_current]

theorem WellFormed.lookup?_eq {t : Table} (wf : t.WellFormed) (name : String) :
    t.lookup? name = t.maps.findSome? (·.get? name) :=
  (findSome?_mapsOf name wf.path_chain.valid).symm

namespace Shows

variable {t : Table} {s : Stack}

/-- The map of the current scope is the innermost one. -/
theorem top (shows : t.Shows s) : t.currentScope.symbols = s.top := by
  obtain ⟨ancestors, -, -, maps⟩ := shows.wellFormed.maps_eq
  exact (List.cons.inj (maps.symm.trans shows.maps)).1

theorem enter (shows : t.Shows s) (label : String) :
    (t.enter label).Shows ⟨.empty, s.toList⟩ where
  wellFormed := shows.wellFormed.enter label
  maps := by
    have old : (t.enter label).mapsOf t.chain = t.mapsOf t.chain := by
      refine mapsOf_congr fun id mem => ?_
      rw [scope?_enter_old label (shows.wellFormed.path_chain.valid id mem), Option.map_map]
      congr 1
      funext scope
      exact (apply_ite Scope.symbols ..).trans (ite_self _)
    rw [Table.maps, shows.wellFormed.chain_enter, mapsOf_cons (scope?_enter_new label), old]
    exact congrArg (NameMap.empty :: ·) shows.maps

/-- The current scope has no parent exactly if there is one map left. -/
theorem exit (shows : t.Shows s) :
    (t.perform .exit).1.verdict = (s.perform .exit).1 ∧
      (t.perform .exit).2.Shows (s.perform .exit).2 := by
  have wf := shows.wellFormed
  have maps := shows.maps
  cases parent : t.currentScope.parent with
  | none =>
      have refused : t.exit = .error .cannotExitGlobal := by rw [Table.exit, parent]
      rw [Table.maps, wf.chain_outermost parent, mapsOf_cons wf.scope?_current] at maps
      have single : s.outer = [] := (List.cons.inj maps).2.symm
      simp only [perform, refused, answering, Stack.perform, single]
      exact ⟨rfl, shows⟩
  | some p =>
      have left : t.exit = .ok { t with current := p } := by rw [Table.exit, parent]
      have wf' : WellFormed { t with current := p } := wf.exit left
      rw [Table.maps, wf.chain_outward parent, mapsOf_cons wf.scope?_current] at maps
      have outer : Table.maps { t with current := p } = s.outer := (List.cons.inj maps).2
      obtain ⟨ancestors, -, -, first⟩ := wf'.maps_eq
      simp only [perform, left, answering, Stack.perform, ← outer, first]
      exact ⟨rfl, wf', first⟩

/-- A symbol is added to the current scope as it is added to the innermost map. -/
theorem insert (shows : t.Shows s) (symbol : Symbol) :
    (t.answering .declared (t.insert symbol)).1.verdict = (s.declare symbol).1 ∧
      (t.answering .declared (t.insert symbol)).2.Shows (s.declare symbol).2 := by
  have wf := shows.wellFormed
  rw [insert_eq, shows.top, Stack.declare]
  split
  · exact ⟨rfl, shows⟩
  · refine ⟨rfl, wf.updateSymbols fun _ all => all.insert rfl, ?_⟩
    obtain ⟨ancestors, whole, apart, maps⟩ := wf.maps_eq
    have outer : t.mapsOf ancestors = s.outer := (List.cons.inj (maps.symm.trans shows.maps)).2
    rw [answering, Table.maps, chain_updateSymbols, whole,
      mapsOf_updateSymbols_cons wf.scope?_current apart, outer, shows.top]
    rfl

theorem assign (shows : t.Shows s) (name : String) (value : Option Constant) :
    (t.perform (.assign name value)).1.verdict = (s.perform (.assign name value)).1 ∧
      (t.perform (.assign name value)).2.Shows (s.perform (.assign name value)).2 := by
  have wf := shows.wellFormed
  have stored : Stack.assignIn? name value s.toList =
      (t.assign? name value).map Table.maps := by
    rw [← shows.maps, Table.maps, assignIn?_mapsOf name value wf.path_chain.valid wf.chain_nodup,
      assign?_eq, Option.map_map, resolve?]
    refine Option.map_congr fun id _ => ?_
    simp [Table.maps]
  cases done : t.assign? name value with
  | none =>
      rw [done, Option.map_none] at stored
      simp only [perform, done, Stack.perform, stored]
      exact ⟨rfl, shows⟩
  | some changed =>
      have wf' := wf.assign? done
      obtain ⟨ancestors, -, -, first⟩ := wf'.maps_eq
      rw [done, Option.map_some, first] at stored
      simp only [perform, done, Stack.perform, stored]
      exact ⟨rfl, wf', first⟩

/-- Every operation ends as it does on the stack, and the table goes on showing
the stack. -/
theorem perform (shows : t.Shows s) (op : Operation) :
    (t.perform op).1.verdict = (s.perform op).1 ∧ (t.perform op).2.Shows (s.perform op).2 := by
  cases op with
  | enter label => exact ⟨rfl, shows.enter label⟩
  | exit => exact shows.exit
  | declare name type place => exact shows.insert (.declared name type place)
  | declareWithValue name type value place =>
      exact shows.insert (.withValue name type value place)
  | assign name value => exact shows.assign name value
  | reset => exact ⟨rfl, wellFormed_new, rfl⟩

end Shows

theorem shows_run {t : Table} {s : Stack} (shows : t.Shows s) (ops : List Operation) :
    (t.run ops).Shows (s.run ops) := by
  induction ops generalizing t s with
  | nil => exact shows
  | cons op rest ih => exact ih (shows.perform op).2

/-- An operation that could not be carried out leaves the table as it was. -/
theorem perform_failed {t : Table} {op : Operation} (failed : (t.perform op).1.failed = true) :
    (t.perform op).2 = t := by
  have step := Step.perform t op
  generalize (t.perform op).1 = answer, (t.perform op).2 = t' at failed step
  cases step with
  | entered | left | declared | assigned | cleared => cases failed
  | outermost | duplicate | missed => rfl

/-- A table cannot be told from a stack of maps: its chain is the way out of the
current scope, the maps on it are those of the stack, every operation ends as it
does on the stack and leaves the maps that it leaves there, one that fails
changes nothing at all, and all questions about a name have the answers that
the stack gives. -/
structure Refines (t : Table) (s : Stack) : Prop where
  chain : t.Path t.current t.chain
  maps : t.maps = s.toList
  verdict : ∀ op, (t.perform op).1.verdict = (s.perform op).1
  changes : ∀ op, (t.perform op).2.maps = (s.perform op).2.toList
  unchanged : ∀ op, (t.perform op).1.failed = true → (t.perform op).2 = t
  lookup : ∀ name, t.lookup? name = s.lookup? name
  lookupLocal : ∀ name, t.lookupLocal? name = s.top.get? name
  resolves : ∀ name, t.resolves name = (s.lookup? name).isSome
  existsLocal : ∀ name, t.existsLocal name = s.top.contains name
  value : ∀ name, t.value? name = (s.lookup? name).bind (·.value)
  type : ∀ name, t.type? name = (s.lookup? name).map (·.type)
  isInitialized : ∀ name, t.isInitialized name = (s.lookup? name).any (·.initialized)

/-- **A symbol table refines a stack of maps**, after every run of operations. -/
theorem run_refines_stack (ops : List Operation) : (new.run ops).Refines (Stack.new.run ops) := by
  have shows : (new.run ops).Shows (Stack.new.run ops) := shows_run ⟨wellFormed_new, rfl⟩ ops
  have lookup (name : String) : (new.run ops).lookup? name = (Stack.new.run ops).lookup? name := by
    rw [shows.wellFormed.lookup?_eq, shows.maps, Stack.lookup?]
  have lookupLocal (name : String) :
      (new.run ops).lookupLocal? name = (Stack.new.run ops).top.get? name := by
    rw [lookupLocal?, shows.top]
  exact
    { chain := shows.wellFormed.path_chain
      maps := shows.maps
      verdict := fun op => (shows.perform op).1
      changes := fun op => (shows.perform op).2.maps
      unchanged := fun _ => perform_failed
      lookup
      lookupLocal
      resolves := fun name => by rw [resolves, lookup]
      existsLocal := fun name => by rw [existsLocal, lookupLocal, NameMap.contains]
      value := fun name => by rw [value?, lookup]
      type := fun name => by rw [type?, lookup]
      isInitialized := fun name => by rw [isInitialized, lookup] }

end Table

end Scopewise
