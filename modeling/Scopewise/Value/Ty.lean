/-
Types as the check reasons about them.

`Ty` adds to the written types the type `error` of an expression that failed to
type-check. `error` is compatible with nothing, not even with itself, so a
failed expression is never accepted anywhere.
-/

import Scopewise.Tree.TypeName

namespace Scopewise

/-- The static type of an expression or a symbol. -/
inductive Ty where
  | int
  | bool
  | void
  /-- The type of an expression that failed to type-check. -/
  | error
deriving DecidableEq, Repr

namespace Ty

/-- The type that an annotation stands for. -/
def ofTypeName : TypeName → Ty
  | .int => .int
  | .bool => .bool
  | .void => .void

/-- The name of a type in messages. -/
def text : Ty → String
  | .int => "int"
  | .bool => "bool"
  | .void => "void"
  | .error => "error"

/-- Every type, each once. -/
def all : List Ty := [.int, .bool, .void, .error]

/-- The type with a given name. -/
def ofText? (s : String) : Option Ty := all.find? fun t => t.text == s

def isError (t : Ty) : Bool := t == .error

/-- Whether something of type `source` may be stored where `target` is
expected: only identical types that are not `error`. -/
def compatible (target source : Ty) : Bool := target == source && !target.isError

theorem ofText?_text (t : Ty) : ofText? t.text = some t := by
  cases t <;> decide

theorem compatible_iff {target source : Ty} :
    compatible target source = true ↔ target = source ∧ target ≠ .error := by
  simp [compatible, isError]

/-- Why two operands have no common arithmetic. -/
inductive OperandError where
  /-- The operand types differ, or one of them is `error`. -/
  | mismatch (left right : Ty)
  /-- The operands agree on a type that has no arithmetic. -/
  | notInteger (type : Ty)
deriving DecidableEq, Repr

/-- The wording of an operand error. -/
def OperandError.message : OperandError → String
  | .mismatch left right =>
      "Type mismatch in binary operation: " ++ left.text ++ " and " ++ right.text
  | .notInteger type =>
      "Arithmetic operations are only supported for int type, got: " ++ type.text

/-- The type of a binary operation: two integers give an integer. -/
def binary (left right : Ty) : Except OperandError Ty :=
  if !compatible left right then .error (.mismatch left right)
  else if left ≠ .int then .error (.notInteger left)
  else .ok .int

/-- Only two integer operands are accepted. -/
theorem binary_eq_ok_iff {left right t : Ty} :
    binary left right = .ok t ↔ left = .int ∧ right = .int ∧ t = .int := by
  cases left <;> cases right <;> cases t <;> simp [binary, compatible, isError]

end Ty

end Scopewise
