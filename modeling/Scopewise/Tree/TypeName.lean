/-
Types as a program writes them: the result type of the function, the type of a
parameter and the type of a declaration group.
-/

namespace Scopewise

/-- A type as it is written in a program. -/
inductive TypeName where
  | int
  | bool
  /-- Only meaningful as a result type. -/
  | void
deriving DecidableEq, Repr

namespace TypeName

/-- The spelling of a type. -/
def text : TypeName → String
  | .int => "int"
  | .bool => "bool"
  | .void => "void"

/-- Every type, each once. -/
def all : List TypeName := [.int, .bool, .void]

/-- The type with a given spelling. -/
def ofText? (s : String) : Option TypeName := all.find? fun t => t.text == s

theorem ofText?_text (t : TypeName) : ofText? t.text = some t := by
  cases t <;> decide

end TypeName

end Scopewise
