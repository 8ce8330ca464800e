/-
Scope names.

An entered scope is called by its label, an underscore and a number. The label
may be any text, one that ends like a number included, but the number can always
be read off: it is the digits at the end of the name
(`Table.eq_of_scopeName_eq`). The number counts the scopes that were entered and
so is the place of the scope in the table (`Table.Named`). Hence no two scopes of
a table have one name, and a scope is found by its name
(`Table.run_names_identify`).
-/

import Scopewise.Proofs.TableRuns

namespace Scopewise

namespace Table

/-! ### The number in a name -/

theorem toList_scopeName (label : String) (n : Nat) :
    (scopeName label n).toList = label.toList ++ '_' :: Nat.toDigits 10 n := by
  simp [scopeName, Nat.toString_eq_repr, Nat.toList_repr]

/-- The digits at the end of a text, the last one first. -/
def lastDigits (text : String) : List Char := text.toList.reverse.takeWhile Char.isDigit

/-- An underscore is no digit, so the digits at the end are those behind it. -/
theorem lastDigits_scopeName (label : String) (n : Nat) :
    lastDigits (scopeName label n) = (Nat.toDigits 10 n).reverse := by
  have digits : ∀ c ∈ (Nat.toDigits 10 n).reverse, c.isDigit = true := by
    intro c mem
    exact Nat.isDigit_of_mem_toDigits (by decide) (by decide) (List.mem_reverse.mp mem)
  rw [lastDigits, toList_scopeName, List.reverse_append, List.reverse_cons, List.append_assoc,
    List.takeWhile_append_of_pos digits]
  simp

theorem eq_of_scopeName_eq {label label' : String} {n n' : Nat}
    (same : scopeName label n = scopeName label' n') : n = n' := by
  have digits := congrArg lastDigits same
  rw [lastDigits_scopeName, lastDigits_scopeName, List.reverse_inj] at digits
  rw [← Nat.ofDigitChars_ten_toDigits (n := n), digits, Nat.ofDigitChars_ten_toDigits]

/-- The name of the global scope ends in no number. -/
theorem scopeName_ne_global (label : String) (n : Nat) : scopeName label n ≠ globalScope.name := by
  intro same
  have underscore : '_' ∈ (scopeName label n).toList := by simp [toList_scopeName]
  rw [same] at underscore
  revert underscore
  decide

/-- `NamesScope id name`: the scope numbered `id` can have the name `name`. -/
inductive NamesScope : Nat → String → Prop where
  | global : NamesScope 0 globalScope.name
  | entered (label : String) (n : Nat) : NamesScope (n + 1) (scopeName label (n + 1))

theorem NamesScope.unique {id id' : Nat} {name : String} (names : NamesScope id name)
    (names' : NamesScope id' name) : id = id' := by
  generalize same : name = name' at names'
  cases names with
  | global =>
      cases names' with
      | global => rfl
      | entered label n => exact absurd same.symm (scopeName_ne_global label _)
  | entered label n =>
      cases names' with
      | global => exact absurd same (scopeName_ne_global label _)
      | entered label' n' => exact eq_of_scopeName_eq same

/-! ### The names in a table -/

/-- Every scope has a name with its own number. -/
def Named (t : Table) : Prop := ∀ id scope, t.scope? id = some scope → NamesScope id scope.name

namespace Named

variable {t t' : Table}

theorem new : Table.new.Named := by
  intro id scope found
  obtain ⟨rfl, rfl⟩ := scope?_new found
  exact .global

theorem enter (named : t.Named) (wf : t.WellFormed) (label : String) : (t.enter label).Named := by
  intro id scope found
  have bound := scope?_eq_some_lt found
  rw [enter_length] at bound
  rcases Nat.lt_or_eq_of_le (Nat.le_of_lt_succ bound) with old | rfl
  · rw [scope?_enter_old label old] at found
    obtain ⟨before, held, rfl⟩ := Option.map_eq_some_iff.mp found
    have names := named id before held
    split <;> exact names
  · rw [scope?_enter_new] at found
    cases found
    rw [← wf.counter_eq]
    exact .entered label t.counter

theorem updateSymbols (named : t.Named) (changed : Nat) (f : NameMap Symbol → NameMap Symbol) :
    (t.updateSymbols changed f).Named := by
  intro id scope found
  rw [scope?_updateSymbols] at found
  obtain ⟨before, held, rfl⟩ := Option.map_eq_some_iff.mp found
  have names := named id before held
  split <;> exact names

theorem step (named : t.Named) (wf : t.WellFormed) {op : Operation} {answer : Answer}
    (step : Step t op answer t') : t'.Named := by
  cases step with
  | entered label => exact named.enter wf label
  | declared | assigned => exact named.updateSymbols _ _
  | left | outermost | duplicate | missed => exact named
  | cleared => exact new

theorem eq_of_name_eq (named : t.Named) {i j : Nat} {scope other : Scope}
    (found : t.scope? i = some scope) (found' : t.scope? j = some other)
    (same : scope.name = other.name) : i = j :=
  (named i scope found).unique (same ▸ named j other found')

theorem run (ops : List Operation) : (Table.new.run ops).Named := by
  apply wellFormed_new.run_induction new
  intro t op _ wf named
  exact named.step wf (.perform t op)

theorem nodup_names (named : t.Named) : (t.scopes.map (·.name)).Nodup := by
  rw [List.nodup_iff_pairwise_ne, List.pairwise_map, List.pairwise_iff_getElem]
  intro i j valid valid' lt same
  have found : t.scope? i = some t.scopes[i] := List.getElem?_eq_getElem valid
  have found' : t.scope? j = some t.scopes[j] := List.getElem?_eq_getElem valid'
  exact Nat.ne_of_lt lt (named.eq_of_name_eq found found' same)

theorem findScope?_name (named : t.Named) {id : Nat} {scope : Scope}
    (found : t.scope? id = some scope) : t.findScope? scope.name = some id := by
  obtain ⟨valid, held⟩ := List.getElem?_eq_some_iff.mp found
  rw [findScope?, List.findIdx?_eq_some_iff_getElem]
  refine ⟨valid, by simp [held], ?_⟩
  intro j earlier same
  have valid' : j < t.scopes.length := Nat.lt_trans earlier valid
  have found' : t.scope? j = some t.scopes[j] := List.getElem?_eq_getElem valid'
  exact Nat.ne_of_lt earlier (named.eq_of_name_eq found' found (beq_iff_eq.mp same))

end Named

/-- **Names identify scopes.** After any run, under whatever labels scopes were
entered, no two scopes have the same name. A scope is found by its name, and
under any other name nothing is found. -/
theorem run_names_identify (ops : List Operation) :
    let t := new.run ops
    (t.scopes.map (·.name)).Nodup ∧
      (∀ id scope, t.scope? id = some scope → t.findScope? scope.name = some id) ∧
      ∀ name, t.findScope? name = none ↔ ∀ scope ∈ t.scopes, scope.name ≠ name := by
  intro t
  have named : t.Named := .run ops
  refine ⟨named.nodup_names, fun id scope found => named.findScope?_name found, ?_⟩
  intro name
  simp [findScope?, List.findIdx?_eq_none_iff]

-- Labels that look as if they had a number, and the label of the global scope.
example : (new.run [.enter "a", .enter "a_1", .enter "", .enter "global", .reset, .enter "a_1",
    .enter "a", .enter ""]).scopes.map (·.name) = ["global", "a_1_1", "a_2", "_3"] := by decide

end Table

end Scopewise
