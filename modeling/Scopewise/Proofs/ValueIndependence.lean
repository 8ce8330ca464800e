/-
Types do not depend on values.

A check computes types and values in one walk and keeps both in the same
symbols. The values still have no influence on anything else: two programs that
differ in their literals and operators only have the same symbols, apart from
the values in them, and the same diagnostics, apart from arithmetic faults
(`analyze_value_independent`).

Two programs differ in literals and operators only if they have the same
`Program.skeleton`. So it is enough to compare a program with its skeleton, and
a program and its skeleton are checked alike.
-/

import Scopewise.Proofs.Relabelling

namespace Scopewise

open Table Diagnostics

/-! ### Leaving out values -/

/-- The same number, truth value and operator everywhere. -/
def Relabelling.blank : Relabelling where
  number _ := 0
  boolean _ := false
  operator _ := .plus

/-- What is left of a program without its literals and operators: its shape,
names, types and spans, and of what kind each literal is. -/
def Program.skeleton (p : Program) : Program := p.map .blank

def Symbol.withoutValue (s : Symbol) : Symbol := { s with value := none }

def Scope.withoutValues (s : Scope) : Scope :=
  { s with symbols := s.symbols.map Symbol.withoutValue }

/-- All that a table says, apart from the values of its symbols. -/
def Table.withoutValues (t : Table) : Table :=
  { t with scopes := t.scopes.map Scope.withoutValues }

/-! ### A program and its skeleton -/

/-- A program is compared with its skeleton on everything but values. -/
def Comparison.blank : Comparison where
  toRelabelling := .blank
  names := Set.univ
  ignored := [.arithmeticFault]
  name_injOn := Set.injOn_id _
  constants := .inr (List.mem_singleton_self _)

theorem Comparison.Symbols.withoutValue_eq {s s' : Symbol} (same : Comparison.blank.Symbols s s') :
    s'.withoutValue = s.withoutValue := by
  have name : s'.name = s.name := same.name
  have place : s'.declaredAt = s.declaredAt := same.declaredAt
  simp [Symbol.withoutValue, name, same.type, same.initialized, place]

theorem Comparison.Agree.withoutValue_eq {m m' : NameMap Symbol}
    (agree : Comparison.blank.Agree m m') :
    m'.map Symbol.withoutValue = m.map Symbol.withoutValue := by
  refine NameMap.ext_get? ?_
  intro x
  rw [NameMap.get?_map, NameMap.get?_map]
  cases found : m.get? x with
  | none =>
      have found' : m'.get? x = none := agree.absent trivial found
      rw [found']
  | some s =>
      obtain ⟨s', found', same⟩ := agree.found trivial found
      have found' : m'.get? x = some s' := found'
      rw [found', Option.map_some, Option.map_some, same.withoutValue_eq]

/-- A program and its skeleton are checked alike, up to values and what is
reported about them. -/
theorem analyze_skeleton (p : Program) :
    without [.arithmeticFault] (analyze p.skeleton).diagnostics =
        without [.arithmeticFault] (analyze p).diagnostics ∧
      (analyze p.skeleton).table.withoutValues = (analyze p).table.withoutValues := by
  obtain ⟨m, m', table, table', agree, reports⟩ :=
    Comparison.blank.check_program (fun _ => trivial) p
  constructor
  · exact reports.eq (fun _ => rfl) fun _ => rfl
  · have image : (analyze p.skeleton).table = leftFunction (functionLabel p.function.name) m' :=
      table'
    have erased (m : NameMap Symbol) :
        (leftFunction (functionLabel p.function.name) m).withoutValues =
          leftFunction (functionLabel p.function.name) (m.map Symbol.withoutValue) := rfl
    rw [image, table, erased, erased, agree.withoutValue_eq]

/-- **Types do not depend on values.** Two programs that differ in literals and
operators only have the same diagnostics, with all arithmetic faults removed,
and the same symbol table, but for the values of symbols. -/
theorem analyze_value_independent {p q : Program} (alike : p.skeleton = q.skeleton) :
    without [.arithmeticFault] (analyze p).diagnostics =
        without [.arithmeticFault] (analyze q).diagnostics ∧
      (analyze p).table.withoutValues = (analyze q).table.withoutValues := by
  obtain ⟨reports, table⟩ := analyze_skeleton p
  obtain ⟨reports', table'⟩ := analyze_skeleton q
  rw [← reports, ← table, alike]
  exact ⟨reports', table'⟩

/-- A program that computes with a literal and a truth value, and stores the
truth value in an integer. -/
def Program.computing (op : Operator) (literal : Int64) (flag : Bool) : Program where
  function :=
    { returnType := .int
      name := "f"
      params := [{ type := .int, name := "n" }]
      body :=
        [.declaration .int
          [{ name := "q"
             init := some (.binary (.var "n" .unknown) op (.number literal .unknown) .unknown) },
            { name := "r" }] .unknown,
          .assignment "q" (.boolean flag .unknown) .unknown,
          .assignment "n" (.binary (.var "r" .unknown) op (.var "q" .unknown) .unknown) .unknown,
          .declaration .bool [{ name := "n" }] .unknown] }

/-- A division by zero and a harmless product: the values differ, one of the two
programs has a fault, and all else is the same. -/
theorem analyze_value_independent_computing :
    (analyze (.computing .divide 0 true)).table ≠ (analyze (.computing .times 7 false)).table ∧
      (analyze (.computing .divide 0 true)).diagnostics.map (·.kind) =
        [.arithmeticFault, .uninitializedDeclaration, .typeMismatch, .uninitializedUse,
          .structuralDuplicate, .missingReturn] ∧
      (Program.computing .divide 0 true).skeleton = (Program.computing .times 7 false).skeleton ∧
      without [.arithmeticFault] (analyze (.computing .divide 0 true)).diagnostics =
        without [.arithmeticFault] (analyze (.computing .times 7 false)).diagnostics ∧
      (analyze (.computing .divide 0 true)).table.withoutValues =
        (analyze (.computing .times 7 false)).table.withoutValues :=
  ⟨by decide, by decide, rfl, analyze_value_independent rfl⟩

end Scopewise
