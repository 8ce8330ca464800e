/-
Scopes that are entered and left like brackets.

A run is bracketed (`Operation.Bracketed`) if its `enter` and `exit` match as
brackets do, and all its declarations and assignments stand inside of them. To
the names around it such a run is almost nothing: behind it the same scope is
current, and every name stands for the symbol of the same scope as before. The
one thing that may come through is an assignment to a name that no scope between
the brackets declares at that time (`Table.run_bracketed_restores`).

Between brackets the current scope is a new one (`Bracketed.le_current`), so a
declaration goes into a new scope. A search goes from new scopes to old ones, as
the chain is decreasing; hence an assignment that comes to an old scope has
found the name in no new one.
-/

import Scopewise.Proofs.History
import Mathlib.Data.List.Find

namespace Scopewise

namespace Operation

/-- Declarations and assignments, the operations that stay in the current
scope. -/
def isWrite : Operation → Bool
  | .declare .. | .declareWithValue .. | .assign .. => true
  | .enter _ | .exit | .reset => false

/-- `Nested ops`: every scope that `ops` enters it leaves again, and it leaves no
other. -/
inductive Nested : List Operation → Prop where
  | nil : Nested []
  | write {op : Operation} {rest : List Operation} :
      op.isWrite = true → Nested rest → Nested (op :: rest)
  | bracket {label : String} {inner rest : List Operation} :
      Nested inner → Nested rest → Nested (.enter label :: (inner ++ .exit :: rest))

/-- `Bracketed ops`: `ops` is nested, and everything else in it stands strictly
inside of brackets. -/
inductive Bracketed : List Operation → Prop where
  | nil : Bracketed []
  | bracket {label : String} {inner rest : List Operation} :
      Nested inner → Bracketed rest → Bracketed (.enter label :: (inner ++ .exit :: rest))

theorem Bracketed.nested {ops : List Operation} (bracketed : Bracketed ops) : Nested ops := by
  induction bracketed with
  | nil => exact .nil
  | bracket inside _ ih => exact .bracket inside ih

theorem isWrite_of_symbol? {op : Operation} {symbol : Symbol}
    (declares : op.symbol? = some symbol) : op.isWrite = true := by
  cases op with
  | declare | declareWithValue => rfl
  | enter | exit | assign | reset => cases declares

/-- An `exit` stands in front of the one that closes a bracket, or is that one,
or stands behind it. -/
theorem exit_cases {inner rest front behind : List Operation}
    (same : inner ++ .exit :: rest = front ++ .exit :: behind) :
    (∃ more, inner = front ++ .exit :: more) ∨ front = inner ∨
      ∃ more, front = inner ++ .exit :: more ∧ rest = more ++ .exit :: behind := by
  rcases List.append_eq_append_iff.mp same with ⟨more, rfl, split⟩ | ⟨more, rfl, split⟩
  · rcases List.cons_eq_append_iff.mp split with ⟨rfl, -⟩ | ⟨more', rfl, split'⟩
    · exact .inr (.inl (List.append_nil inner))
    · exact .inr (.inr ⟨more', rfl, split'⟩)
  · rcases List.cons_eq_append_iff.mp split with ⟨rfl, -⟩ | ⟨more', rfl, -⟩
    · exact .inr (.inl (List.append_nil front).symm)
    · exact .inl ⟨more', rfl⟩

namespace Nested

variable {ops : List Operation}

theorem reset_notMem (nested : Nested ops) : .reset ∉ ops := by
  induction nested with
  | nil => exact List.not_mem_nil
  | @write op rest writes _ ih =>
      intro mem
      rcases List.mem_cons.mp mem with rfl | mem
      · cases writes
      · exact ih mem
  | bracket _ _ ihInner ihRest => simp [ihInner, ihRest]

/-- Every `exit` has an `enter` that it matches. -/
theorem exists_enter (nested : Nested ops) {front behind : List Operation}
    (whole : ops = front ++ .exit :: behind) :
    ∃ before label inner, front = before ++ .enter label :: inner ∧ Nested inner := by
  induction nested generalizing front behind with
  | nil => simp at whole
  | @write op rest writes _ ih =>
      rcases List.cons_eq_append_iff.mp whole with ⟨-, same⟩ | ⟨front, rfl, same⟩
      · cases same
        cases writes
      · obtain ⟨before, label, inner, rfl, inside⟩ := ih same
        exact ⟨op :: before, label, inner, rfl, inside⟩
  | @bracket label inner rest inside _ ihInner ihRest =>
      rcases List.cons_eq_append_iff.mp whole with ⟨-, same⟩ | ⟨front, rfl, same⟩
      · cases same
      · rcases exit_cases same with ⟨more, rfl⟩ | rfl | ⟨more, rfl, split⟩
        · obtain ⟨before, label', inner', rfl, inside'⟩ := ihInner rfl
          exact ⟨.enter label :: before, label', inner', rfl, inside'⟩
        · exact ⟨[], label, front, rfl, inside⟩
        · obtain ⟨before, label', inner', rfl, inside'⟩ := ihRest split
          exact ⟨.enter label :: (inner ++ .exit :: before), label', inner', by simp, inside'⟩

end Nested

end Operation

namespace Table

open Operation

variable {t t' : Table} {ops : List Operation}

/-! ### The chain behind brackets -/

theorem Step.chain_write {op : Operation} {answer : Answer} (step : Step t op answer t')
    (writes : op.isWrite = true) : t'.chain = t.chain := by
  cases step with
  | entered | left | cleared => cases writes
  | declared | assigned => exact chain_updateSymbols ..
  | outermost | duplicate | missed => rfl

theorem WellFormed.current_eq_of_chain_eq (wf : t.WellFormed) (wf' : t'.WellFormed)
    (same : t'.chain = t.chain) : t'.current = t.current := by
  obtain ⟨ancestors, whole⟩ := wf.path_chain.exists_ancestors
  obtain ⟨ancestors', whole'⟩ := wf'.path_chain.exists_ancestors
  rw [whole, whole'] at same
  exact (List.cons.inj same).1

/-- `exit` takes the first scope off the chain, unless it is the only one. -/
theorem WellFormed.perform_exit (wf : t.WellFormed) {id : Nat} {outer : List Nat}
    (chain : t.chain = id :: outer) (more : outer ≠ []) :
    (t.perform .exit).1 = .left id ∧ (t.perform .exit).2.chain = outer ∧
      (t.perform .exit).2.scopes = t.scopes := by
  cases parent : t.currentScope.parent with
  | none =>
      rw [wf.chain_outermost parent] at chain
      exact absurd (List.cons.inj chain).2.symm more
  | some p =>
      rw [wf.chain_outward parent] at chain
      obtain ⟨here, rest⟩ := List.cons.inj chain
      have left : t.exit = .ok { t with current := p } := by rw [Table.exit, parent]
      rw [Table.perform, left, Table.answering, here]
      exact ⟨rfl, rest, rfl⟩

/-- What comes of the `exit` behind an `enter`, if the chain is the one behind
the `enter` again. -/
theorem WellFormed.close (wf : t.WellFormed) {label : String} {inside : Table}
    (wf' : inside.WellFormed) (same : inside.chain = (t.enter label).chain) :
    (inside.perform .exit).1 = .left t.scopes.length ∧ (inside.perform .exit).2.chain = t.chain ∧
      (inside.perform .exit).2.scopes = inside.scopes := by
  rw [wf.chain_enter] at same
  exact wf'.perform_exit same (List.ne_nil_of_mem wf.current_mem_chain)

end Table

namespace Operation

variable {t s : Table} {op : Operation} {ops : List Operation}

/-- A nested run ends where it starts. -/
theorem Nested.chain_run (nested : Nested ops) (wf : t.WellFormed) :
    (t.run ops).chain = t.chain := by
  induction nested generalizing t with
  | nil => rfl
  | @write op rest writes _ ih =>
      rw [Table.run_cons, ih (wf.perform op)]
      exact (Table.Step.perform t op).chain_write writes
  | @bracket label inner rest _ _ ihInner ihRest =>
      have wfInside := (wf.enter label).run inner
      obtain ⟨-, closed, -⟩ := wf.close wfInside (ihInner (wf.enter label))
      rw [Table.run_cons, Table.run_append]
      exact (ihRest (wfInside.perform .exit)).trans closed

theorem Nested.current_run (nested : Nested ops) (wf : t.WellFormed) :
    (t.run ops).current = t.current :=
  wf.current_eq_of_chain_eq (wf.run ops) (nested.chain_run wf)

/-- What comes of the `exit` that closes a bracket. -/
theorem Nested.close {inner : List Operation} (nested : Nested inner) (wf : t.WellFormed)
    (label : String) :
    let inside := (t.enter label).run inner
    let closed := (inside.perform .exit).2
    inside.current = t.scopes.length ∧ (inside.perform .exit).1 = .left t.scopes.length ∧
      closed.WellFormed ∧ closed.current = t.current ∧ t.scopes.length ≤ closed.scopes.length := by
  intro inside closed
  have wf' : inside.WellFormed := (wf.enter label).run inner
  have wfClosed : closed.WellFormed := wf'.perform .exit
  have current : inside.current = t.scopes.length := nested.current_run (wf.enter label)
  obtain ⟨answer, chain, scopes⟩ := wf.close wf' (nested.chain_run (wf.enter label))
  refine ⟨current, answer, wfClosed, wf.current_eq_of_chain_eq wfClosed chain, ?_⟩
  rw [scopes, ← current]
  exact Nat.le_of_lt wf'.current_valid

/-- The steps of a bracket are its `enter`, those inside, its `exit` and those
behind it. -/
theorem mem_history_bracket {label : String} {inner rest : List Operation}
    (mem : (s, op) ∈ t.history (.enter label :: (inner ++ .exit :: rest))) :
    let inside := (t.enter label).run inner
    (s, op) = (t, .enter label) ∨ (s, op) ∈ (t.enter label).history inner ∨
      (s, op) = (inside, .exit) ∨ (s, op) ∈ (inside.perform .exit).2.history rest := by
  rw [Table.history, Table.history_append] at mem
  rcases List.mem_cons.mp mem with first | mem
  · exact .inl first
  · rcases List.mem_append.mp mem with within | mem
    · exact .inr (.inl within)
    · exact .inr (.inr (List.mem_cons.mp mem))

/-- A nested run stays in scopes that are not older than the one it starts in. -/
theorem Nested.le_current (nested : Nested ops) (wf : t.WellFormed)
    (mem : (s, op) ∈ t.history ops) : t.current ≤ s.current := by
  induction nested generalizing t with
  | nil => cases mem
  | @write first rest writes _ ih =>
      rcases List.mem_cons.mp mem with same | mem
      · cases same
        exact Nat.le_refl _
      · have chain := (Table.Step.perform t first).chain_write writes
        rw [← wf.current_eq_of_chain_eq (wf.perform first) chain]
        exact ih (wf.perform first) mem
  | @bracket label inner rest inside _ ihInner ihRest =>
      obtain ⟨current, -, wfClosed, current', -⟩ := inside.close wf label
      rcases mem_history_bracket mem with same | within | same | behind
      · cases same
        exact Nat.le_refl _
      · exact Nat.le_trans (Nat.le_of_lt wf.current_valid) (ihInner (wf.enter label) within)
      · cases same
        rw [current]
        exact Nat.le_of_lt wf.current_valid
      · rw [← current']
        exact ihRest wfClosed behind

/-- What a bracketed run writes it writes while a new scope is current. -/
theorem Bracketed.le_current (bracketed : Bracketed ops) (wf : t.WellFormed)
    (mem : (s, op) ∈ t.history ops) (writes : op.isWrite = true) :
    t.scopes.length ≤ s.current := by
  induction bracketed generalizing t with
  | nil => cases mem
  | @bracket label inner rest inside _ ih =>
      obtain ⟨-, -, wfClosed, -, grown⟩ := inside.close wf label
      rcases mem_history_bracket mem with same | within | same | behind
      · cases same
        cases writes
      · exact inside.le_current (wf.enter label) within
      · cases same
        cases writes
      · exact Nat.le_trans grown (ih wfClosed behind)

end Operation

namespace Table

open Operation

/-! ### What comes through brackets -/

section Through

variable {t s : Table} {ops : List Operation} {id : Nat} {name : String}

/-- A search looks into newer scopes first. -/
theorem WellFormed.declares_eq_false (wf : t.WellFormed) (resolved : t.resolve? name = some id)
    {newer : Nat} (mem : newer ∈ t.chain) (lt : id < newer) : t.declares name newer = false := by
  obtain ⟨-, front, behind, whole, passed⟩ := List.find?_eq_some_iff_append.mp resolved
  have decreasing := (wf.path_chain.decreasing wf).1
  rw [whole] at mem decreasing
  rcases List.mem_append.mp mem with mem | mem
  · simpa using passed newer mem
  · have below := (List.pairwise_cons.mp (List.pairwise_append.mp decreasing).2.1).1
    rcases List.mem_cons.mp mem with rfl | mem
    · exact absurd lt (Nat.lt_irrefl _)
    · exact absurd lt (Nat.lt_asymm (below newer mem))

/-- All that a step of a bracketed run does to an old scope is to store what is
assigned to a name that is found there. -/
theorem change_of_bracketed (bracketed : Bracketed ops) (wf : t.WellFormed)
    {op : Operation} (mem : (s, op) ∈ t.history ops) (old : id < t.scopes.length) (name : String) :
    (s.perform op).2.symbolAt? id name = s.symbolAt? id name ∨
      ∃ symbol value, op = .assign name value ∧ s.resolve? name = some id ∧
        s.symbolAt? id name = some symbol ∧
        (s.perform op).2.symbolAt? id name = some (symbol.store value) := by
  obtain ⟨listed, wf'⟩ := wf.history mem
  have goesOn : op ≠ .reset := fun same => bracketed.nested.reset_notMem (same ▸ listed)
  have change := (Step.perform s op).change wf' goesOn id name
  generalize s.symbolAt? id name = before, (s.perform op).2.symbolAt? id name = after at change ⊢
  cases change with
  | kept => exact .inl rfl
  | declared declares here =>
      have new := bracketed.le_current wf mem (isWrite_of_symbol? declares)
      rw [← here] at new
      exact absurd old (Nat.not_lt.mpr new)
  | stored assigns _ resolved => exact .inr ⟨_, _, assigns, resolved, rfl, rfl⟩

theorem declares_run_bracketed (bracketed : Bracketed ops) (wf : t.WellFormed)
    (old : id < t.scopes.length) (name : String) :
    (t.run ops).declares name id = t.declares name id := by
  by_contra different
  obtain ⟨s, op, mem, changed⟩ := exists_change (·.declares name id) different
  apply changed
  rw [declares_eq_isSome, declares_eq_isSome]
  rcases change_of_bracketed bracketed wf mem old name with same | ⟨_, _, -, -, before, after⟩
  · rw [same]
  · rw [before, after]
    rfl

/-- The scopes of the chain declare what they declared before. -/
theorem resolve?_run_bracketed (bracketed : Bracketed ops) (wf : t.WellFormed) (name : String) :
    (t.run ops).resolve? name = t.resolve? name := by
  rw [resolve?, bracketed.nested.chain_run wf, resolve?]
  apply List.find?_congr
  intro id mem
  exact declares_run_bracketed bracketed wf (wf.path_chain.valid id mem) name

/-- A name stands for the same symbol, whatever is stored in it. -/
theorem lookup?_run_bracketed (bracketed : Bracketed ops) (wf : t.WellFormed) {symbol : Symbol}
    (found : t.lookup? name = some symbol) :
    ∃ after, (t.run ops).lookup? name = some after ∧ symbol.Becomes after := by
  rw [lookup?_eq_bind, Option.bind_eq_some_iff] at found
  obtain ⟨id, resolved, held⟩ := found
  obtain ⟨after, held', becomes⟩ := Keeps.run wf held bracketed.nested.reset_notMem
  refine ⟨after, ?_, becomes⟩
  rw [lookup?_eq_bind, resolve?_run_bracketed bracketed wf, resolved]
  exact held'

/-- What is different about a name comes from an assignment that found it where
it is found from outside. -/
theorem exists_assign_of_lookup?_ne (bracketed : Bracketed ops) (wf : t.WellFormed)
    (different : (t.run ops).lookup? name ≠ t.lookup? name) :
    ∃ s value id, (s, .assign name value) ∈ t.history ops ∧ id < t.scopes.length ∧
      s.resolve? name = some id := by
  rw [lookup?_eq_bind, lookup?_eq_bind, resolve?_run_bracketed bracketed wf] at different
  cases resolved : t.resolve? name with
  | none => simp [resolved] at different
  | some id =>
      rw [resolved] at different
      have old := wf.path_chain.valid id (List.mem_of_find?_eq_some resolved)
      obtain ⟨s, op, mem, changed⟩ := exists_change (·.symbolAt? id name) different
      rcases change_of_bracketed bracketed wf mem old name with same | ⟨_, value, rfl, found, -⟩
      · exact absurd same changed
      · exact ⟨s, value, id, mem, old, found⟩

end Through

/-- What a bracketed run leaves of a table. -/
structure Restores (t : Table) (ops : List Operation) : Prop where
  /-- Every `exit` leaves the scope that the matching `enter` entered. -/
  exits : ∀ {front behind}, ops = front ++ .exit :: behind →
    ∃ before label inner id, front = before ++ .enter label :: inner ∧ Nested inner ∧
      ((t.run before).perform (.enter label)).1 = .entered id ∧
      ((t.run front).perform .exit).1 = .left id
  /-- The same scope is current. -/
  current : (t.run ops).current = t.current
  /-- Every name is found in the same scope, or in none as before. -/
  resolve : ∀ name, (t.run ops).resolve? name = t.resolve? name
  /-- It stands for a symbol with the same name, type and place. -/
  lookup : ∀ {name symbol}, t.lookup? name = some symbol →
    ∃ after, (t.run ops).lookup? name = some after ∧ after.name = symbol.name ∧
      after.type = symbol.type ∧ after.declaredAt = symbol.declaredAt
  /-- If the symbol is not as it was, there was an assignment to the name at a
  time when no new scope that was open declared it. -/
  assigned : ∀ {name}, (t.run ops).lookup? name ≠ t.lookup? name →
    ∃ s value, (s, .assign name value) ∈ t.history ops ∧
      ∀ id, s.IsOpen id → t.scopes.length ≤ id → s.declares name id = false

/-- **Brackets restore the view from outside.** After any run of a new table and
a bracketed run behind it, every `exit` has left the scope of its `enter`, the
scope that was current is current again, and every name is found where it was
found before, with its type and place. Only a value that was assigned while no
scope inside the brackets hid the name has come through. -/
theorem run_bracketed_restores (earlier : List Operation) {ops : List Operation}
    (bracketed : Bracketed ops) : (new.run earlier).Restores ops := by
  have wf := wellFormed_run earlier
  refine ⟨?_, bracketed.nested.current_run wf, resolve?_run_bracketed bracketed wf, ?_, ?_⟩
  · intro front behind whole
    obtain ⟨before, label, inner, rfl, inside⟩ := bracketed.nested.exists_enter whole
    obtain ⟨-, answer, -⟩ := inside.close (wf.run before) label
    refine ⟨before, label, inner, _, rfl, inside, rfl, ?_⟩
    rw [run_append, run_cons]
    exact answer
  · intro name symbol found
    obtain ⟨after, found', becomes⟩ := lookup?_run_bracketed bracketed wf found
    exact ⟨after, found', becomes.name, becomes.type, becomes.declaredAt⟩
  · intro name different
    obtain ⟨s, value, id, mem, old, found⟩ := exists_assign_of_lookup?_ne bracketed wf different
    have wf' := (wf.history mem).2
    refine ⟨s, value, mem, fun newer isOpen new => ?_⟩
    exact wf'.declares_eq_false found (wf'.isOpen_iff.mp isOpen) (Nat.lt_of_lt_of_le old new)

/-- Two brackets in a row and one inside. The first assignment to `x` goes out
of the brackets and the others do not; `y` is assigned from the inmost one. -/
def hidesName : List Operation :=
  [.enter "a", .assign "x" (some (.int 1)), .declare "x" .bool .unknown,
    .assign "x" (some (.bool true)), .enter "b", .assign "x" none, .assign "y" (some (.int 2)),
    .exit, .exit, .enter "c", .exit]

theorem bracketed_hidesName : Bracketed hidesName := by
  have innermost : Nested [.assign "x" none, .assign "y" (some (.int 2))] :=
    .write rfl (.write rfl .nil)
  have inside : Nested [.assign "x" (some (.int 1)), .declare "x" .bool .unknown,
      .assign "x" (some (.bool true)), .enter "b", .assign "x" none, .assign "y" (some (.int 2)),
      .exit] :=
    .write rfl (.write rfl (.write rfl (.bracket innermost .nil)))
  have second : Bracketed [.enter "c", .exit] := .bracket .nil .nil
  exact .bracket inside second

theorem run_bracketed_restores_hidesName :
    let t := new.run [.declare "x" .int .unknown, .declare "y" .int .unknown]
    Bracketed hidesName ∧ t.Restores hidesName ∧
      (t.run hidesName).value? "x" = some (.int 1) ∧ (t.run hidesName).value? "y" = some (.int 2) :=
  ⟨bracketed_hidesName, run_bracketed_restores _ bracketed_hidesName, by decide, by decide⟩

end Table

end Scopewise
