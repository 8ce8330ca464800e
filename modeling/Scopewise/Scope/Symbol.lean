/-
Symbols: what a scope knows about a declared name.
-/

import Scopewise.Source.Position
import Scopewise.Value.Constant

namespace Scopewise

/-- A declared name with its type, its value if that is known, and whether
anything was stored in it yet. -/
structure Symbol where
  name : String
  type : Ty
  value : Option Constant
  initialized : Bool
  declaredAt : Position
deriving DecidableEq, Repr

namespace Symbol

/-- A symbol in which nothing was stored. -/
def declared (name : String) (type : Ty) (place : Position) : Symbol :=
  { name, type, value := none, initialized := false, declaredAt := place }

/-- A symbol that starts with a value. The value may be unknown; the symbol
counts as initialized all the same. -/
def withValue (name : String) (type : Ty) (value : Option Constant) (place : Position) : Symbol :=
  { name, type, value, initialized := true, declaredAt := place }

/-- The symbol after a value was stored in it. -/
def store (s : Symbol) (value : Option Constant) : Symbol :=
  { s with value, initialized := true }

/-- The text of a symbol in a scope dump. -/
def text (s : Symbol) : String :=
  "Symbol\x7bname='" ++ s.name ++ "', type='" ++ s.type.text ++ "', value=" ++
    Constant.textOf s.value ++ ", initialized=" ++ (if s.initialized then "true" else "false") ++
    ", line=" ++ toString s.declaredAt.line.toInt ++
    ", col=" ++ toString s.declaredAt.column.toInt ++ "\x7d"

end Symbol

end Scopewise
