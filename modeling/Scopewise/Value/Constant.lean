/-
Values known before a program runs, and folding of constants.

A constant is a 64-bit integer or a truth value; `none` stands for a value that
is not known. `Constant.fold` applies an operator to two operands: it answers
only when both are known integers, its arithmetic wraps around, and its
division truncates toward zero and refuses a zero divisor.
-/

import Scopewise.Tree.Operator
import Scopewise.Value.Ty

namespace Scopewise

/-- A value known before a program runs. -/
inductive Constant where
  | int (value : Int64)
  | bool (value : Bool)
deriving DecidableEq, Repr

namespace Constant

/-- The integer held by a constant, if it is one. -/
def toInt? : Constant → Option Int64
  | .int value => some value
  | .bool _ => none

def text : Constant → String
  | .int value => toString value.toInt
  | .bool true => "true"
  | .bool false => "false"

/-- The text of a value that may be unknown. -/
def textOf : Option Constant → String
  | some c => c.text
  | none => "null"

/-- A constant was divided by zero. -/
inductive FoldError where
  | divisionByZero
deriving DecidableEq, Repr

/-- The wording of a folding error. -/
def FoldError.message : FoldError → String
  | .divisionByZero => "Division by zero"

/-- The result of an operator on two integers. The quotient is truncated
toward zero; the one quotient that does not fit wraps like the other results. -/
def apply (op : Operator) (left right : Int64) : Except FoldError Int64 :=
  match op with
  | .plus => .ok (left + right)
  | .minus => .ok (left - right)
  | .times => .ok (left * right)
  | .divide => if right = 0 then .error .divisionByZero else .ok (left / right)

/-- Folds a binary operation. The result is unknown unless both operands are
known integers, so a zero divisor is only noticed under a known dividend. -/
def fold (left : Option Constant) (op : Operator) (right : Option Constant) :
    Except FoldError (Option Constant) :=
  match left.bind toInt?, right.bind toInt? with
  | some l, some r => (apply op l r).map fun value => some (.int value)
  | _, _ => .ok none

end Constant

/-- The value that a parameter of a type starts with. -/
def Ty.default : Ty → Option Constant
  | .int => some (.int 0)
  | .bool => some (.bool false)
  | .void | .error => none

end Scopewise
