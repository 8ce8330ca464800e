/-
Reports on a symbol table: the dump of all scopes and the statistics.

`Table.traversal` lists the scopes depth first from the global one, each with
its depth; the dump writes one entry per visit, with the symbols of the scope
in name order.
-/

import Scopewise.Scope.Table

namespace Scopewise

namespace Table

/-- The scopes below and including `id`, depth first, each with its depth. The
tree is followed for at most `bound` levels. -/
def traversalFrom (t : Table) : (bound id depth : Nat) → List (Nat × Nat)
  | 0, _, _ => []
  | bound + 1, id, depth =>
      match t.scope? id with
      | none => []
      | some scope =>
          (id, depth) :: scope.children.flatMap fun child => t.traversalFrom bound child (depth + 1)

/-- All scopes reached from the global one, depth first, each with its depth.
A tree of scopes has no more levels than scopes. -/
def traversal (t : Table) : List (Nat × Nat) := t.traversalFrom t.scopes.length 0 0

/-- Two blanks per level. -/
def indent (depth : Nat) : String := String.join (List.replicate depth "  ")

/-- The lines of one scope: its name, then its symbols one level deeper. -/
def scopeLines (scope : Scope) (depth : Nat) : List String :=
  (indent depth ++ "Scope: " ++ scope.name) ::
    scope.symbols.values.map fun symbol => indent depth ++ "  " ++ symbol.text

/-- The lines of the whole dump. -/
def dumpLines (t : Table) : List String :=
  "=== SYMBOL TABLE ===" ::
    t.traversal.flatMap fun (id, depth) =>
      match t.scope? id with
      | none => []
      | some scope => scopeLines scope depth

/-- The dump of all scopes. -/
def dump (t : Table) : String := "\n".intercalate t.dumpLines

/-! ### Statistics -/

/-- Counts over the whole tree of scopes. -/
structure Statistics where
  totalScopes : Nat
  totalSymbols : Nat
  currentScope : String
deriving DecidableEq, Repr

def statistics (t : Table) : Statistics where
  totalScopes := t.scopes.length
  totalSymbols := (t.scopes.flatMap fun s => s.symbols.entries).length
  currentScope := t.currentScope.name

def Statistics.text (s : Statistics) : String :=
  "=== SYMBOL TABLE STATISTICS ===\nTotal scopes: " ++ toString s.totalScopes ++
    "\nTotal symbols: " ++ toString s.totalSymbols ++ "\nCurrent scope: " ++ s.currentScope

end Table

end Scopewise
