/-
The symbol table as a JSON value, for tools that read it.
-/

import Scopewise.Exchange.Encode
import Scopewise.Scope.Table

namespace Scopewise

/-- A value that may be unknown; an unknown one is null. -/
def Constant.optionalJson : Option Constant → Json
  | some (.int value) => .int value.toInt
  | some (.bool value) => .bool value
  | none => .null

def Symbol.toJson (s : Symbol) : Json :=
  .obj [("name", .str s.name), ("ty", .str s.type.text),
    ("value", Constant.optionalJson s.value), ("initialized", .bool s.initialized),
    ("declared_at", s.declaredAt.toJson)]

/-- The number of a scope that may be missing. -/
def Scope.parentJson : Option Nat → Json
  | some id => .int id
  | none => .null

/-- A scope; its symbols are an object with the names as keys, in order. -/
def Scope.toJson (s : Scope) : Json :=
  .obj [("name", .str s.name),
    ("symbols", .obj (s.symbols.entries.map fun (name, symbol) => (name, symbol.toJson))),
    ("parent", parentJson s.parent),
    ("children", .arr (s.children.map fun (id : Nat) => .int id))]

def Table.toJson (t : Table) : Json :=
  .obj [("scopes", .arr (t.scopes.map Scope.toJson)), ("current", .int t.current),
    ("counter", .int t.counter)]

end Scopewise
