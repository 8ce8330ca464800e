/-
Program trees.

A program is one function with parameters and a flat list of statements. Every
node records its span. `Expr.join` builds a binary expression whose span covers
both operands.
-/

import Scopewise.Source.Span
import Scopewise.Tree.Operator
import Scopewise.Tree.TypeName

namespace Scopewise

/-- An expression. -/
inductive Expr where
  | binary (left : Expr) (op : Operator) (right : Expr) (span : Span)
  | number (value : Int64) (span : Span)
  | boolean (value : Bool) (span : Span)
  | var (name : String) (span : Span)
deriving DecidableEq, Repr

/-- One variable of a declaration group, with its initial value if it has one. -/
structure VarDecl where
  name : String
  init : Option Expr := none
  span : Span := .unknown
deriving DecidableEq, Repr

/-- A statement. -/
inductive Stmt where
  /-- `int x, y = 5` -/
  | declaration (type : TypeName) (vars : List VarDecl) (span : Span)
  /-- `x = value` -/
  | assignment (target : String) (value : Expr) (span : Span)
  /-- `return` or `return value` -/
  | ret (value : Option Expr) (span : Span)
  /-- An expression whose value is dropped. -/
  | expr (value : Expr) (span : Span)
deriving DecidableEq, Repr

/-- A parameter of the function. -/
structure Param where
  type : TypeName
  name : String
  span : Span := .unknown
deriving DecidableEq, Repr

/-- The function of a program. -/
structure FunctionDef where
  returnType : TypeName
  name : String
  params : List Param := []
  body : List Stmt := []
  span : Span := .unknown
deriving DecidableEq, Repr

/-- A complete program: exactly one function. -/
structure Program where
  function : FunctionDef
  span : Span := .unknown
deriving DecidableEq, Repr

namespace Expr

def span : Expr → Span
  | .binary _ _ _ span | .number _ span | .boolean _ span | .var _ span => span

/-- The same expression at another place. -/
def withSpan (span : Span) : Expr → Expr
  | .binary left op right _ => .binary left op right span
  | .number value _ => .number value span
  | .boolean value _ => .boolean value span
  | .var name _ => .var name span

/-- A binary expression that spans its operands. -/
def join (left : Expr) (op : Operator) (right : Expr) : Expr :=
  .binary left op right (left.span.merge right.span)

/-- The kind of node, as it is named in the exchange format. -/
def tag : Expr → String
  | .binary .. => "BinaryOp"
  | .number .. => "Number"
  | .boolean .. => "Boolean"
  | .var .. => "Variable"

end Expr

namespace Stmt

def span : Stmt → Span
  | .declaration _ _ span | .assignment _ _ span | .ret _ span | .expr _ span => span

/-- The kind of node, as it is named in the exchange format. -/
def tag : Stmt → String
  | .declaration .. => "Declaration"
  | .assignment .. => "Assignment"
  | .ret .. => "ReturnStmt"
  | .expr .. => "ExprStmt"

def isReturn : Stmt → Bool
  | .ret .. => true
  | _ => false

end Stmt

/-- Whether some statement of the body is a return. Whether it is ever reached
does not matter. -/
def FunctionDef.hasReturn (f : FunctionDef) : Bool := f.body.any Stmt.isReturn

end Scopewise
