/-
Walks over a program tree.

A `Walk` says what a walk records at each kind of node. Each entry is given the
node and what was recorded below it, and decides what to record in its place;
the default entries record nothing of their own and go on in source order. So a
walk that cares for a few kinds of node only names those.

The walks at the end are the ones that the tools offer: the leaves of a program,
an overview of its statements, its root expressions and its operators.
-/

import Scopewise.Tree.Render

namespace Scopewise

/-- What a walk records, node by node. `below` is what was recorded below the
node, in source order; a node with several children gets one list for each. -/
structure Walk (α : Type) where
  param : Param → List α := fun _ => []
  stmt : Stmt → (below : List α) → List α := fun _ below => below
  declaration : TypeName → List VarDecl → (below : List (List α)) → List α :=
    fun _ _ below => below.flatten
  varDecl : VarDecl → (below : List α) → List α := fun _ below => below
  expr : Expr → (below : List α) → List α := fun _ below => below
  binary : Operator → Span → (left right : List α) → List α := fun _ _ left right => left ++ right
  number : Int64 → Span → List α := fun _ _ => []
  boolean : Bool → Span → List α := fun _ _ => []
  var : String → Span → List α := fun _ _ => []

namespace Walk

variable {α : Type}

/-- What the walk records in an expression. -/
def onExpr (w : Walk α) : Expr → List α
  | e@(.binary left op right span) => w.expr e (w.binary op span (w.onExpr left) (w.onExpr right))
  | e@(.number value span) => w.expr e (w.number value span)
  | e@(.boolean value span) => w.expr e (w.boolean value span)
  | e@(.var name span) => w.expr e (w.var name span)

/-- What the walk records in an expression that may be missing. -/
def onExpr? (w : Walk α) (e : Option Expr) : List α := (e.map w.onExpr).getD []

def onVarDecl (w : Walk α) (v : VarDecl) : List α := w.varDecl v (w.onExpr? v.init)

/-- What the walk records in a statement. -/
def onStmt (w : Walk α) (s : Stmt) : List α :=
  w.stmt s <|
    match s with
    | .declaration type vars _ => w.declaration type vars (vars.map w.onVarDecl)
    | .assignment _ value _ => w.onExpr value
    | .ret value _ => w.onExpr? value
    | .expr e _ => w.onExpr e

/-- What the walk records in a program: the parameters, then the statements. -/
def onProgram (w : Walk α) (p : Program) : List α :=
  p.function.params.flatMap w.param ++ p.function.body.flatMap w.onStmt

/-! ### Walks in use -/

/-- Records nothing. -/
def silent : Walk String := {}

/-- Records the parameters and the leaves of the expressions. -/
def leaves : Walk String where
  param p := ["param " ++ p.text]
  number value _ := ["number " ++ (Constant.int value).text]
  boolean value _ := ["boolean " ++ (Constant.bool value).text]
  var name span := ["variable " ++ name ++ " @" ++ span.text]

/-- Records the parameters and the statements, and nothing inside them. -/
def overview : Walk String where
  param p := [p.text]
  stmt s _ := [s.tag ++ " @" ++ s.span.text]

/-- Records the declared variables and the outermost expressions. -/
def roots : Walk String where
  varDecl v _ := [v.text]
  expr e _ := [e.tag ++ " " ++ e.text]

/-- Records each declaration group, with its variables last to first, and each
operator after its operands. -/
def operators : Walk String where
  declaration type vars below :=
    (type.text ++ " x" ++ toString vars.length) :: below.reverse.flatten
  binary op span left right := left ++ right ++ [op.name ++ " @" ++ span.text]

end Walk

end Scopewise
