/-
The indented outline of a program tree, one node per line.

`Program.outline` is the list of lines as data: how deep a line is indented, the
label that tells the role of its node (`= `, `Left: `, `Right: `), and its text.
`Program.outlineText` writes the lines out.

    Program
      FunctionDef: int main
        Statements:
          Return
            BinaryOp: plus
              Left: Number: 2
              Right: Number: 3
-/

import Scopewise.Tree.Basic
import Scopewise.Value.Constant

namespace Scopewise

/-- The part that a node plays under its parent. -/
inductive Role where
  | plain
  /-- What is stored by an assignment or an initializer. -/
  | stored
  | left
  | right
deriving DecidableEq, Repr

/-- How a role is written before the text of the node. -/
def Role.label : Role → String
  | .plain => ""
  | .stored => "= "
  | .left => "Left: "
  | .right => "Right: "

/-- One line of an outline. -/
structure OutlineLine where
  depth : Nat
  role : Role := .plain
  text : String
deriving DecidableEq, Repr

/-- The line as it is written: two blanks per level, the label, the text. -/
def OutlineLine.render (line : OutlineLine) : String :=
  String.join (List.replicate line.depth "  ") ++ line.role.label ++ line.text

/-- The line that an expression has for itself. -/
def Expr.headline : Expr → String
  | .binary _ op _ _ => "BinaryOp: " ++ op.name
  | .number value _ => "Number: " ++ (Constant.int value).text
  | .boolean value _ => "Boolean: " ++ (Constant.bool value).text
  | .var name _ => "Variable: " ++ name

/-- The lines of an expression: its own, then those of its operands one level
deeper, the left operand first. -/
def Expr.outline (depth : Nat) (role : Role) : Expr → List OutlineLine
  | e@(.binary left _ right _) =>
      { depth, role, text := e.headline } ::
        (left.outline (depth + 1) .left ++ right.outline (depth + 1) .right)
  | e => [{ depth, role, text := e.headline }]

def VarDecl.outline (depth : Nat) (v : VarDecl) : List OutlineLine :=
  { depth, text := "Variable: " ++ v.name } ::
    match v.init with
    | some init => init.outline (depth + 1) .stored
    | none => []

def Stmt.outline (depth : Nat) : Stmt → List OutlineLine
  | .declaration type vars _ =>
      { depth, text := "Declaration: " ++ type.text } :: vars.flatMap (VarDecl.outline (depth + 1))
  | .assignment target value _ =>
      { depth, text := "Assignment: " ++ target } :: value.outline (depth + 1) .stored
  | .ret (some value) _ => { depth, text := "Return" } :: value.outline (depth + 1) .plain
  | .ret none _ => [{ depth, text := "Return (void)" }]
  | .expr e _ => { depth, text := "ExpressionStatement" } :: e.outline (depth + 1) .plain

def Param.outline (depth : Nat) (p : Param) : OutlineLine :=
  { depth, text := "Parameter: " ++ p.type.text ++ " " ++ p.name }

/-- The lines of a parameter list; an empty one has none. -/
def FunctionDef.outlineParams (depth : Nat) (params : List Param) : List OutlineLine :=
  if params.isEmpty then []
  else { depth, text := "Parameters:" } :: params.map (Param.outline (depth + 1))

/-- The lines of a function. The statements have a line of their own even if
there are none. -/
def FunctionDef.outline (depth : Nat) (f : FunctionDef) : List OutlineLine :=
  { depth, text := "FunctionDef: " ++ f.returnType.text ++ " " ++ f.name } ::
    (FunctionDef.outlineParams (depth + 1) f.params ++
      { depth := depth + 1, text := "Statements:" } :: f.body.flatMap (Stmt.outline (depth + 2)))

/-- The lines of the whole program. -/
def Program.outline (p : Program) : List OutlineLine :=
  { depth := 0, text := "Program" } :: p.function.outline 1

/-- The outline as text; every line ends in a line feed. -/
def Program.outlineText (p : Program) : String :=
  String.join (p.outline.map fun line => line.render ++ "\n")

end Scopewise
