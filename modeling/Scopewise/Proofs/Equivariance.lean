/-
Names and positions have no meaning of their own.

If the variables of a program are renamed, different ones differently, and its
spans are moved in any way, the check finds the same: the diagnostics are of the
same kinds in the same order, at the moved places, and the symbols of each scope
are those of the original under their new names (`analyze_equivariant`). So
neither the text of a name, nor the order of names in a scope, nor a position
ever decides anything. Only the wording of messages is left out.
-/

import Scopewise.Proofs.Relabelling
import Mathlib.Logic.Equiv.Basic

namespace Scopewise

open Table Diagnostics

/-! ### Images of what a check reports -/

/-- A diagnostic without its wording: what it is about and where it points. -/
structure Placement where
  kind : DiagnosticKind
  severity : Severity
  span : Option Span
  related : List Span
deriving DecidableEq, Repr

def Diagnostic.placement (d : Diagnostic) : Placement where
  kind := d.kind
  severity := d.severity
  span := d.span
  related := d.related.map (·.span)

/-- The same finding at the moved places. -/
def Placement.map (f : Relabelling) (p : Placement) : Placement where
  kind := p.kind
  severity := p.severity
  span := p.span.map f.span
  related := p.related.map f.span

/-- The same scope, with the images of its symbols under the images of their
names and nothing else. -/
structure Scope.Image (f : Relabelling) (scope scope' : Scope) : Prop where
  name : scope'.name = scope.name
  parent : scope'.parent = scope.parent
  children : scope'.children = scope.children
  symbols : ∀ x, scope'.symbols.get? (f.name x) = (scope.symbols.get? x).map (Symbol.map f)
  only : ∀ y symbol, scope'.symbols.get? y = some symbol → ∃ x, y = f.name x

/-- The same tree of scopes, with images for scopes. -/
structure Table.Image (f : Relabelling) (t t' : Table) : Prop where
  scopes : List.Forall₂ (Scope.Image f) t.scopes t'.scopes
  current : t'.current = t.current
  counter : t'.counter = t.counter

/-! ### A program and its image -/

section Transport

variable {s : String → String}

/-- A program is compared with its renamed and moved image on everything. -/
def Comparison.transport (injective : Function.Injective s) (r : Position → Position) :
    Comparison where
  name := s
  position := r
  names := Set.univ
  ignored := []
  name_injOn := injective.injOn
  constants := .inl (Relabelling.keepsConstants s r)

theorem Comparison.Finds.placement_eq {K : Comparison} {d d' : Diagnostic}
    (finds : K.Finds d d') : d'.placement = d.placement.map K.toRelabelling := by
  cases finds with
  | duplicateParam existing =>
      simp [Diagnostic.placement, Placement.map, Finding.duplicateParam, Finding.previously,
        existing.declaredAt, Relabelling.span, Span.point, Param.map, Diagnostic.severity]
  | duplicateVar existing =>
      simp [Diagnostic.placement, Placement.map, Finding.duplicateVar, Finding.previously,
        existing.declaredAt, Relabelling.span, Span.point, VarDecl.map, Diagnostic.severity]
  | notDeclared => rfl
  | usedUninitialized => rfl
  | declaredUninitialized => rfl
  | cannotStore => rfl
  | badOperands => rfl
  | badArithmetic => rfl
  | missingReturn => rfl

theorem Comparison.Reports.placements_eq {K : Comparison} {ds ds' : List Diagnostic}
    (reports : K.Reports ds ds') :
    (without K.ignored ds').map Diagnostic.placement =
      (without K.ignored ds).map fun d => d.placement.map K.toRelabelling := by
  rw [← List.forall₂_eq_eq_eq, List.forall₂_map_left_iff, List.forall₂_map_right_iff]
  exact List.Forall₂.imp (fun _ _ finds => finds.placement_eq) reports.flip

/-- The scopes of a function that was checked are images if their symbols are. -/
theorem Table.image_leftFunction {f : Relabelling} {m m' : NameMap Symbol} (label : String)
    (symbols : ∀ x, m'.get? (f.name x) = (m.get? x).map (Symbol.map f))
    (only : ∀ y symbol, m'.get? y = some symbol → ∃ x, y = f.name x) :
    (leftFunction label m).Image f (leftFunction label m') where
  scopes := .cons ⟨rfl, rfl, rfl, fun _ => rfl, nofun⟩
    (.cons ⟨rfl, rfl, rfl, symbols, only⟩ .nil)
  current := rfl
  counter := rfl

/-- **Checks are equivariant.** An injective renaming of the variables and any
map of the positions turn the diagnostics of a program into those of its image,
at the image of each span, and its symbol table into that of its image. -/
theorem analyze_equivariant (p : Program) (injective : Function.Injective s)
    (r : Position → Position) :
    (analyze (p.map { name := s, position := r })).diagnostics.map Diagnostic.placement =
        (analyze p).diagnostics.map (fun d => d.placement.map { name := s, position := r }) ∧
      (analyze p).table.Image { name := s, position := r }
        (analyze (p.map { name := s, position := r })).table := by
  obtain ⟨m, m', table, table', agree, reports⟩ :=
    (Comparison.transport injective r).check_program (fun _ => trivial) p
  have image : (analyze (p.map { name := s, position := r })).table =
      leftFunction (functionLabel p.function.name) m' := table'
  constructor
  · have placements := reports.placements_eq
    rw [Comparison.transport, without_nothing, without_nothing] at placements
    exact placements
  · have written := analyze_names_written (p.map { name := s, position := r })
    rw [image] at written
    rw [table, image]
    refine image_leftFunction _ ?_ ?_
    · intro x
      exact agree.get?_eq_map (Relabelling.keepsConstants s r) trivial
    · intro y symbol found
      have declared := written _ (List.mem_cons_of_mem _ (List.mem_singleton_self _)) y symbol found
      rw [Program.map, FunctionDef.writes_map] at declared
      obtain ⟨x, -, rfl⟩ := List.mem_map.mp declared
      exact ⟨x, rfl⟩

end Transport

/-- A program whose parameter is declared again, and read by a declaration of an
earlier name. -/
def Program.crossed : Program where
  function :=
    { returnType := .int
      name := "f"
      params := [{ type := .int, name := "b", span := ⟨⟨1, 6⟩, ⟨1, 11⟩⟩ }]
      body :=
        [.declaration .bool
          [{ name := "a", init := some (.var "b" ⟨⟨2, 12⟩, ⟨2, 13⟩⟩), span := ⟨⟨2, 8⟩, ⟨2, 13⟩⟩ },
            { name := "b", span := ⟨⟨2, 15⟩, ⟨2, 16⟩⟩ }] ⟨⟨2, 3⟩, ⟨2, 16⟩⟩,
          .assignment "c" (.var "a" ⟨⟨3, 7⟩, ⟨3, 8⟩⟩) ⟨⟨3, 3⟩, ⟨3, 8⟩⟩]
      span := ⟨⟨1, 1⟩, ⟨4, 1⟩⟩ }

/-- The names `a` and `b` change places, and all is put on one line. -/
def Relabelling.crossing : Relabelling where
  name := Equiv.swap "a" "b"
  position p := ⟨1, p.column⟩

/-- The check does not mind that the names now stand in another order and that
different positions have become the same. -/
theorem analyze_equivariant_crossed :
    Function.Injective Relabelling.crossing.name ∧
      (analyze .crossed).diagnostics.map (·.kind) =
        [.typeMismatch, .structuralDuplicate, .unknownIdentifier, .missingReturn] ∧
      (analyze (Program.crossed.map .crossing)).diagnostics.map Diagnostic.placement =
        (analyze .crossed).diagnostics.map (fun d => d.placement.map .crossing) ∧
      (analyze .crossed).table.Image .crossing (analyze (Program.crossed.map .crossing)).table :=
  ⟨(Equiv.swap "a" "b").injective, by decide,
    analyze_equivariant .crossed (Equiv.swap "a" "b").injective fun p => ⟨1, p.column⟩⟩

end Scopewise
