/-
The grammar of program trees in JSON values.

`Grammar.Represents` relates a value to the program that it stands for. A record
is an object, where each field stands under its key and other keys do not matter,
or a list of the fields in order, where the last ones may be left out
(`Json.Record`). A node is always an object, and names its kind or numbers it. A
name is a string or the only key of an object with nothing behind it.

The grammar is a relation of its own and does not mention decoding. What counts
as nothing behind a name inside a statement is left open (`Blank`), and so is
what counts as a statement in a body.
-/

import Mathlib.Data.List.Forall2
import Scopewise.Json.Value
import Scopewise.Tree.Basic

namespace Scopewise

namespace Json

/-- No object in the value has a repeated key. -/
inductive Distinct : Json → Prop where
  | null : Distinct .null
  | bool (b : Bool) : Distinct (.bool b)
  | int (n : Int) : Distinct (.int n)
  | double (x : Double) : Distinct (.double x)
  | str (s : String) : Distinct (.str s)
  | arr {items : List Json} : (∀ item ∈ items, Distinct item) → Distinct (.arr items)
  | obj {entries : List (String × Json)} : (entries.map Prod.fst).Nodup →
      (∀ e ∈ entries, Distinct e.2) → Distinct (.obj entries)

@[simp] theorem distinct_arr {items : List Json} :
    (Json.arr items).Distinct ↔ ∀ item ∈ items, item.Distinct := by
  constructor
  · rintro ⟨⟩
    assumption
  · exact .arr

@[simp] theorem distinct_obj {entries : List (String × Json)} :
    (Json.obj entries).Distinct ↔
      (entries.map Prod.fst).Nodup ∧ ∀ e ∈ entries, e.2.Distinct := by
  constructor
  · rintro ⟨⟩
    constructor <;> assumption
  · rintro ⟨keys, values⟩
    exact .obj keys values

attribute [simp] Distinct.null Distinct.bool Distinct.int Distinct.double Distinct.str

/-- A record with the fields `names`. What stands at a field is given by `slot`,
which means nothing at any other name. -/
inductive Record (names : List String) : Json → (slot : String → Option Json) → Prop where
  | keyed (entries : List (String × Json)) : Record names (.obj entries) (entries.lookup ·)
  | listed {items : List Json} : items.length ≤ names.length →
      Record names (.arr items) (items[names.idxOf ·]?)

theorem exists_record_obj {names : List String} {entries : List (String × Json)}
    {Held : (String → Option Json) → Prop} :
    (∃ slot, (Json.obj entries).Record names slot ∧ Held slot) ↔ Held (entries.lookup ·) := by
  constructor
  · rintro ⟨_, ⟨⟩ | _, held⟩
    exact held
  · intro held
    exact ⟨_, .keyed entries, held⟩

/-- A null. -/
def IsNull (v : Json) : Prop := v = .null

/-- A null or an empty object. -/
def IsBlank (v : Json) : Prop := v = .null ∨ v = .obj []

end Json

namespace Grammar

open Json

variable {α : Type}

/-! ### Fields -/

/-- A field that has to be there. -/
inductive Needs (IsA : Json → α → Prop) : Option Json → α → Prop where
  | present {v : Json} {a : α} : IsA v a → Needs IsA (some v) a

/-- A field that may be left out. -/
inductive Allows (IsA : Json → α → Prop) (default : α) : Option Json → α → Prop where
  | present {v : Json} {a : α} : IsA v a → Allows IsA default (some v) a
  | absent : Allows IsA default none default

theorem needs_iff {IsA : Json → α → Prop} {part : Option Json} {a : α} :
    Needs IsA part a ↔ ∃ v, part = some v ∧ IsA v a := by
  constructor
  · rintro ⟨isA⟩
    exact ⟨_, rfl, isA⟩
  · rintro ⟨v, rfl, isA⟩
    exact .present isA

@[simp] theorem needs_some {IsA : Json → α → Prop} {v : Json} {a : α} :
    Needs IsA (some v) a ↔ IsA v a := by
  simp [needs_iff]

theorem allows_iff {IsA : Json → α → Prop} {default a : α} {part : Option Json} :
    Allows IsA default part a ↔ (part = none ∧ a = default) ∨ Needs IsA part a := by
  constructor
  · rintro (isA | _)
    · exact .inr (.present isA)
    · exact .inl ⟨rfl, rfl⟩
  · rintro (⟨rfl, rfl⟩ | ⟨⟨isA⟩⟩)
    · exact .absent
    · exact .present isA

@[simp] theorem allows_some {IsA : Json → α → Prop} {default a : α} {v : Json} :
    Allows IsA default (some v) a ↔ IsA v a := by
  simp [allows_iff]

/-! ### Scalars and lists -/

def IsString (v : Json) (s : String) : Prop := v = .str s

def IsBool (v : Json) (b : Bool) : Prop := v = .bool b

/-- An integer of 64 bits. -/
def IsInt64 (v : Json) (n : Int64) : Prop := v = .int n.toInt

/-- An integer of 32 bits. -/
def IsInt32 (v : Json) (n : Int32) : Prop := v = .int n.toInt

/-- A list of anything. -/
def IsList (IsA : Json → α → Prop) (v : Json) (as : List α) : Prop :=
  ∃ items, v = .arr items ∧ List.Forall₂ IsA items as

/-- Something that may be absent, written as null. -/
inductive IsNullable (IsA : Json → α → Prop) : Json → Option α → Prop where
  | absent : IsNullable IsA .null none
  | present {v : Json} {a : α} : IsA v a → IsNullable IsA v (some a)

/-- A name, alone or as the only key of an object with nothing behind it. -/
inductive IsName (Spells : String → α → Prop) (Blank : Json → Prop) : Json → α → Prop where
  | alone {s : String} {a : α} : Spells s a → IsName Spells Blank (.str s) a
  | keyed {s : String} {v : Json} {a : α} : Spells s a → Blank v →
      IsName Spells Blank (.obj [(s, v)]) a

def IsTypeName : (Blank : Json → Prop) → Json → TypeName → Prop :=
  IsName fun s t => s = t.text

/-- Operators are named by keyword or by symbol. -/
def IsOperator : (Blank : Json → Prop) → Json → Operator → Prop :=
  IsName fun s o => s = o.keyword ∨ s = o.symbol

/-! ### Places -/

def IsPosition (v : Json) (p : Position) : Prop :=
  ∃ slot, v.Record ["line", "column"] slot ∧
    Needs IsInt32 (slot "line") p.line ∧ Needs IsInt32 (slot "column") p.column

def IsSpan (v : Json) (s : Span) : Prop :=
  ∃ slot, v.Record ["start", "end"] slot ∧
    Allows IsPosition .unknown (slot "start") s.start ∧
    Allows IsPosition .unknown (slot "end") s.stop

/-- The span of a node, which is unknown if it is left out. -/
def SpanPart : Option Json → Span → Prop := Allows IsSpan .unknown

/-! ### Nodes -/

/-- The entries belong to a node of the given kind. -/
def HasKind (kind : String) (index : Nat) (entries : List (String × Json)) : Prop :=
  entries.lookup "node" = some (.str kind) ∨ entries.lookup "node" = some (.int index)

section Nodes

variable (Blank : Json → Prop)

inductive IsExpr : Json → Expr → Prop where
  | binary {entries : List (String × Json)} {l r : Json} {left right : Expr} {op : Operator}
      {span : Span} : HasKind "BinaryOp" 0 entries →
      entries.lookup "left" = some l → IsExpr l left →
      Needs (IsOperator Blank) (entries.lookup "op") op →
      entries.lookup "right" = some r → IsExpr r right →
      SpanPart (entries.lookup "span") span → IsExpr (.obj entries) (.binary left op right span)
  | number {entries : List (String × Json)} {value : Int64} {span : Span} :
      HasKind "Number" 1 entries → Needs IsInt64 (entries.lookup "value") value →
      SpanPart (entries.lookup "span") span → IsExpr (.obj entries) (.number value span)
  | boolean {entries : List (String × Json)} {value : Bool} {span : Span} :
      HasKind "Boolean" 2 entries → Needs IsBool (entries.lookup "value") value →
      SpanPart (entries.lookup "span") span → IsExpr (.obj entries) (.boolean value span)
  | var {entries : List (String × Json)} {name : String} {span : Span} :
      HasKind "Variable" 3 entries → Needs IsString (entries.lookup "name") name →
      SpanPart (entries.lookup "span") span → IsExpr (.obj entries) (.var name span)

def IsVarDecl (v : Json) (d : VarDecl) : Prop :=
  ∃ slot, v.Record ["name", "init", "span"] slot ∧ Needs IsString (slot "name") d.name ∧
    Allows (IsNullable (IsExpr Blank)) none (slot "init") d.init ∧ SpanPart (slot "span") d.span

inductive IsStmt : Json → Stmt → Prop where
  | declaration {entries : List (String × Json)} {type : TypeName} {vars : List VarDecl}
      {span : Span} : HasKind "Declaration" 0 entries →
      Needs (IsTypeName Blank) (entries.lookup "type") type →
      Needs (IsList (IsVarDecl Blank)) (entries.lookup "vars") vars →
      SpanPart (entries.lookup "span") span → IsStmt (.obj entries) (.declaration type vars span)
  | assignment {entries : List (String × Json)} {target : String} {value : Expr} {span : Span} :
      HasKind "Assignment" 1 entries → Needs IsString (entries.lookup "target") target →
      Needs (IsExpr Blank) (entries.lookup "value") value →
      SpanPart (entries.lookup "span") span → IsStmt (.obj entries) (.assignment target value span)
  | ret {entries : List (String × Json)} {value : Option Expr} {span : Span} :
      HasKind "ReturnStmt" 2 entries →
      Allows (IsNullable (IsExpr Blank)) none (entries.lookup "value") value →
      SpanPart (entries.lookup "span") span → IsStmt (.obj entries) (.ret value span)
  | expr {entries : List (String × Json)} {value : Expr} {span : Span} :
      HasKind "ExprStmt" 3 entries → Needs (IsExpr Blank) (entries.lookup "expr") value →
      SpanPart (entries.lookup "span") span → IsStmt (.obj entries) (.expr value span)

end Nodes

/-! ### Programs -/

def IsParam (v : Json) (p : Param) : Prop :=
  ∃ slot, v.Record ["type", "name", "span"] slot ∧ Needs (IsTypeName IsNull) (slot "type") p.type ∧
    Needs IsString (slot "name") p.name ∧ SpanPart (slot "span") p.span

section Programs

variable (Statement : Json → Stmt → Prop)

def IsFunctionDef (v : Json) (f : FunctionDef) : Prop :=
  ∃ slot, v.Record ["return_type", "name", "params", "body", "span"] slot ∧
    Needs (IsTypeName IsNull) (slot "return_type") f.returnType ∧
    Needs IsString (slot "name") f.name ∧ Allows (IsList IsParam) [] (slot "params") f.params ∧
    Allows (IsList Statement) [] (slot "body") f.body ∧ SpanPart (slot "span") f.span

def IsProgram (v : Json) (p : Program) : Prop :=
  ∃ slot, v.Record ["function", "span"] slot ∧
    Needs (IsFunctionDef Statement) (slot "function") p.function ∧ SpanPart (slot "span") p.span

end Programs

/-- The value stands for the program. `Blank` is what may stand behind a name
inside a statement; elsewhere that is null. -/
def Represents (Blank : Json → Prop) : Json → Program → Prop := IsProgram (IsStmt Blank)

end Grammar

end Scopewise
