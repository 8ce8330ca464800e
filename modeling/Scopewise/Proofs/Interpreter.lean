/-
A plain interpreter of programs.

A run keeps a store: for every declared name a cell with its type and, once
something was stored in it, a datum. It starts the parameters at zero, false or
nothing, and then carries out every statement of the body in order; a return
evaluates its expression and does not end the run. Arithmetic is that of the
integers, brought back to 64 bits.

A run that cannot go on is stuck (`none`). It is stuck on a name that is
declared twice, on reading or assigning a name that is not declared, on reading
a name in which nothing was stored, on arithmetic with anything but two
integers, on a zero divisor, and on storing a datum of another type than the
declared one. Nothing here refers to types of expressions, to a table or to
diagnostics.
-/

import Scopewise.Tree.Basic

namespace Scopewise

/-! ### Data and stores -/

/-- What an expression computes. -/
inductive Datum where
  | int (value : Int64)
  | bool (value : Bool)
  | unit
deriving DecidableEq, Repr

namespace Datum

/-- The type of the variables that may hold a datum. -/
def kind : Datum → TypeName
  | .int _ => .int
  | .bool _ => .bool
  | .unit => .void

/-- What a parameter of a type starts with. -/
def initial : TypeName → Datum
  | .int => .int 0
  | .bool => .bool false
  | .void => .unit

theorem kind_initial (type : TypeName) : (initial type).kind = type := by
  cases type <;> rfl

end Datum

/-- A declared variable: its type, and what it holds unless it is unset. -/
structure Cell where
  type : TypeName
  contents : Option Datum
  fits : ∀ d ∈ contents, d.kind = type

namespace Cell

/-- A variable in which nothing was stored. -/
def unset (type : TypeName) : Cell where
  type
  contents := none
  fits := nofun

/-- A parameter at the start of a run. -/
def start (type : TypeName) : Cell where
  type
  contents := some (.initial type)
  fits d h := by
    cases h
    exact Datum.kind_initial type

/-- A variable of a type that holds `d`, if `d` is of that type. -/
def holding? (type : TypeName) (d : Datum) : Option Cell :=
  if h : d.kind = type then some ⟨type, some d, by rintro _ ⟨⟩; exact h⟩ else none

end Cell

/-- The declared variables by name. -/
abbrev Store := String → Option Cell

namespace Store

/-- The store without variables. -/
def empty : Store := fun _ => none

/-- Puts a cell under a name. -/
def set (store : Store) (name : String) (cell : Cell) : Store :=
  fun other => if name = other then some cell else store other

/-- Declares a name; stuck when it is declared already. -/
def declare? (store : Store) (name : String) (cell : Cell) : Option Store :=
  match store name with
  | some _ => none
  | none => some (store.set name cell)

/-- What a name holds; stuck when it is undeclared or unset. -/
def read? (store : Store) (name : String) : Option Datum := (store name).bind Cell.contents

end Store

/-! ### Runs -/

/-- An operation on integers: the exact result, brought back to 64 bits. The
quotient is truncated toward zero. -/
def Operator.compute? (op : Operator) (left right : Int64) : Option Int64 :=
  match op with
  | .plus => some (Int64.ofInt (left.toInt + right.toInt))
  | .minus => some (Int64.ofInt (left.toInt - right.toInt))
  | .times => some (Int64.ofInt (left.toInt * right.toInt))
  | .divide =>
      if right.toInt = 0 then none else some (Int64.ofInt (left.toInt.tdiv right.toInt))

/-- An operation on data: only two integers can be computed with. -/
def Datum.combine? (op : Operator) : Datum → Datum → Option Datum
  | .int left, .int right => (op.compute? left right).map .int
  | _, _ => none

/-- The datum of an expression. -/
def Expr.eval? (store : Store) : Expr → Option Datum
  | .number value _ => some (.int value)
  | .boolean value _ => some (.bool value)
  | .var name _ => store.read? name
  | .binary left op right _ => do
      let l ← left.eval? store
      let r ← right.eval? store
      Datum.combine? op l r

/-- A variable of a type that holds the datum of an expression; stuck when the
expression is, or computes a datum of another type. -/
def Expr.cell? (store : Store) (type : TypeName) (e : Expr) : Option Cell :=
  (e.eval? store).bind (Cell.holding? type)

/-- Declares a parameter with what it starts with. -/
def Param.run? (store : Store) (p : Param) : Option Store :=
  store.declare? p.name (.start p.type)

/-- Declares a variable. Its initial value is computed before the name is
there. -/
def VarDecl.run? (type : TypeName) (store : Store) (v : VarDecl) : Option Store :=
  match v.init with
  | none => store.declare? v.name (.unset type)
  | some init => do
      let cell ← init.cell? store type
      store.declare? v.name cell

/-- Carries out a statement. -/
def Stmt.run? (store : Store) : Stmt → Option Store
  | .declaration type vars _ => vars.foldlM (VarDecl.run? type) store
  | .assignment target value _ => do
      let cell ← store target
      let changed ← value.cell? store cell.type
      return store.set target changed
  | .ret none _ => some store
  | .ret (some value) _ => do
      let _ ← value.eval? store
      return store
  | .expr e _ => do
      let _ ← e.eval? store
      return store

/-- Runs a program from its parameters to the last statement of its body. -/
def Program.run? (p : Program) : Option Store := do
  let store ← p.function.params.foldlM Param.run? .empty
  p.function.body.foldlM Stmt.run? store

end Scopewise
