/-
Encoding program trees as JSON values.

Every field is written, in a fixed order: a node starts with its kind and ends
with its span, and an absent expression is null. Operators are written by their
keywords.
-/

import Scopewise.Json.Printer
import Scopewise.Tree.Basic

namespace Scopewise

def Position.toJson (p : Position) : Json :=
  .obj [("line", .int p.line.toInt), ("column", .int p.column.toInt)]

def Span.toJson (s : Span) : Json := .obj [("start", s.start.toJson), ("end", s.stop.toJson)]

def TypeName.toJson (t : TypeName) : Json := .str t.text

def Operator.toJson (o : Operator) : Json := .str o.keyword

/-- A node: its kind, its fields and its span. -/
def nodeJson (kind : String) (fields : List (String × Json)) (span : Span) : Json :=
  .obj (("node", .str kind) :: (fields ++ [("span", span.toJson)]))

def Expr.toJson : Expr → Json
  | e@(.binary left op right span) =>
      nodeJson e.tag [("left", left.toJson), ("op", op.toJson), ("right", right.toJson)] span
  | e@(.number value span) => nodeJson e.tag [("value", .int value.toInt)] span
  | e@(.boolean value span) => nodeJson e.tag [("value", .bool value)] span
  | e@(.var name span) => nodeJson e.tag [("name", .str name)] span

/-- An absent expression is null. -/
def Expr.optionalJson : Option Expr → Json
  | some e => e.toJson
  | none => .null

def VarDecl.toJson (v : VarDecl) : Json :=
  .obj [("name", .str v.name), ("init", Expr.optionalJson v.init), ("span", v.span.toJson)]

def Stmt.toJson (s : Stmt) : Json :=
  match s with
  | .declaration type vars span =>
      nodeJson s.tag [("type", type.toJson), ("vars", .arr (vars.map VarDecl.toJson))] span
  | .assignment target value span =>
      nodeJson s.tag [("target", .str target), ("value", value.toJson)] span
  | .ret value span => nodeJson s.tag [("value", Expr.optionalJson value)] span
  | .expr e span => nodeJson s.tag [("expr", e.toJson)] span

def Param.toJson (p : Param) : Json :=
  .obj [("type", p.type.toJson), ("name", .str p.name), ("span", p.span.toJson)]

def FunctionDef.toJson (f : FunctionDef) : Json :=
  .obj [("return_type", f.returnType.toJson), ("name", .str f.name),
    ("params", .arr (f.params.map Param.toJson)), ("body", .arr (f.body.map Stmt.toJson)),
    ("span", f.span.toJson)]

def Program.toJson (p : Program) : Json :=
  .obj [("function", p.function.toJson), ("span", p.span.toJson)]

/-- The text of a program tree in the exchange format. -/
def Program.toText (p : Program) : String := p.toJson.compact

end Scopewise
