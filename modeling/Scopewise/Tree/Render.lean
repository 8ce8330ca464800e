/-
Source-like text of a program tree.

Binary expressions are written in full parentheses, so the text shows how the
operands are grouped. Spans are not shown.
-/

import Scopewise.Tree.Basic
import Scopewise.Value.Constant

namespace Scopewise

/-- Literals read as the constants that they denote. -/
def Expr.text : Expr → String
  | .binary left op right _ => "(" ++ left.text ++ " " ++ op.symbol ++ " " ++ right.text ++ ")"
  | .number value _ => (Constant.int value).text
  | .boolean value _ => (Constant.bool value).text
  | .var name _ => name

def VarDecl.text (v : VarDecl) : String :=
  match v.init with
  | some init => v.name ++ " = " ++ init.text
  | none => v.name

/-- A statement without the semicolon that ends it. -/
def Stmt.text : Stmt → String
  | .declaration type vars _ => type.text ++ " " ++ ", ".intercalate (vars.map VarDecl.text)
  | .assignment target value _ => target ++ " = " ++ value.text
  | .ret (some value) _ => "return " ++ value.text
  | .ret none _ => "return"
  | .expr e _ => e.text

def Param.text (p : Param) : String := p.type.text ++ " " ++ p.name

def FunctionDef.text (f : FunctionDef) : String :=
  f.returnType.text ++ " " ++ f.name ++ "(" ++ ", ".intercalate (f.params.map Param.text) ++
    ") \x7b" ++ String.join (f.body.map fun s => " " ++ s.text ++ ";") ++ " \x7d"

def Program.text (p : Program) : String := p.function.text

end Scopewise
