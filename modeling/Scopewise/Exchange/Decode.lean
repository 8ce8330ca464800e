/-
Decoding program trees.

`Program.ofText` decodes JSON text and `Program.ofValue` a JSON value. Text is
decoded while it is read, so an error in the tree wins over anything that is
wrong with the text behind it. A node (a statement or an expression) is an
object whose fields depend on its kind, so its parts are set aside until the
whole node was read; `Reading` tells the three situations apart where the rules
differ.
-/

import Scopewise.Exchange.Fields
import Scopewise.Json.Reader
import Scopewise.Tree.Basic

namespace Scopewise

/-- How a part of a tree comes to be decoded. -/
inductive Reading where
  /-- While its text is read. -/
  | streamed
  /-- From a value that was read before. -/
  | whole
  /-- From a part of a node that was set aside. -/
  | kept
deriving DecidableEq, Repr

namespace Decode

variable {α β : Type}

/-- What stands at the front of a document; a broken one is reported. -/
def mismatch (wanted : Wanted) : Doc → Except DecodeError α
  | .null => .error (.wrongType .null wanted)
  | .bool b => .error (.wrongType (.bool b) wanted)
  | .int n => .error (.wrongType (.int n) wanted)
  | .double x => .error (.wrongType (.double x) wanted)
  | .str s => .error (.wrongType (.str s) wanted)
  | .arr _ _ => .error (.wrongType .arr wanted)
  | .obj _ _ => .error (.wrongType .obj wanted)
  | .fault f => .error (.text f.read)

/-! ### Scalars and lists -/

def string : Doc → Except DecodeError String
  | .str s => .ok s
  | d => mismatch .string d

def boolean : Doc → Except DecodeError Bool
  | .bool b => .ok b
  | d => mismatch .boolean d

def int64 : Doc → Except DecodeError Int64
  | .int n =>
      if Int64.minValue.toInt ≤ n ∧ n ≤ Int64.maxValue.toInt then .ok (Int64.ofInt n)
      else .error (.outOfRange n .int64)
  | d => mismatch .int64 d

def int32 : Doc → Except DecodeError Int32
  | .int n =>
      if Int32.minValue.toInt ≤ n ∧ n ≤ Int32.maxValue.toInt then .ok (Int32.ofInt n)
      else .error (.outOfRange n .int32)
  | d => mismatch .int32 d

/-- Passes the end of a list or an object. -/
def close (cut : Option Fault) : Except DecodeError Unit :=
  match cut with
  | some f => .error (.text f.read)
  | none => .ok ()

/-- A list of anything. -/
def list (decode : Doc → Except DecodeError α) : Doc → Except DecodeError (List α)
  | .arr items cut => do
      let values ← items.mapM decode
      close cut
      return values
  | d => mismatch .sequence d

/-- Something that may be absent, written as null. -/
def nullable (decode : Doc → Except DecodeError α) : Doc → Except DecodeError (Option α)
  | .null => .ok none
  | d => (decode d).map some

/-! ### Names -/

/-- Nothing. A part that was set aside may also say so by an empty object. -/
def unit (reading : Reading) : Doc → Except DecodeError Unit
  | .null => .ok ()
  | .obj [] none => if reading = .kept then .ok () else mismatch .unit (.obj [] none)
  | d => mismatch .unit d

/-- Looks a name up. -/
def known (find? : String → Option α) (names : List String) (name : String) :
    Except DecodeError α :=
  match find? name with
  | some a => .ok a
  | none => .error (.unknownName name names)

/-- One of a few names, written as a string or as the only key of an object
that holds nothing. While text is read the object is taken apart step by step;
otherwise the number of its keys is checked first. -/
def name (find? : String → Option α) (names : List String) (reading : Reading) :
    Doc → Except DecodeError α
  | .str s => known find? names s
  | .obj entries cut =>
      match reading, entries with
      | .streamed, (key, value) :: rest => do
          let a ← known find? names key
          unit reading value
          match rest, cut with
          | [], none => return a
          | [], some f => throw (.text f.named)
          | _ :: _, _ => throw (.text .malformed)
      | .streamed, [] =>
          match cut with
          | some f => .error (.text f.named)
          | none => .error (.text .malformed)
      | _, [(key, value)] => do
          let a ← known find? names key
          unit reading value
          return a
      | _, _ => .error .notOneKey
  | .fault f => .error (.text (if reading = .streamed then f.named else f.read))
  | d => if reading = .streamed then .error (.text .malformed) else mismatch .oneName d

def typeName : Reading → Doc → Except DecodeError TypeName :=
  name TypeName.ofText? (TypeName.all.map TypeName.text)

/-- The spellings of the operators, each symbol before its keyword. -/
def operatorNames : List String := Operator.all.flatMap fun o => [o.symbol, o.keyword]

def operator : Reading → Doc → Except DecodeError Operator :=
  name Operator.ofSpelling? operatorNames

/-! ### Records -/

/-- Passes over the entries that are no fields. -/
def passOthers (names : List String) : (place : Nat) → List (String × Doc) → Placed Unit
  | _, [] => .ok ()
  | place, (key, d) :: rest =>
      if names.contains key then passOthers names (place + 1) rest
      else
        match d.skip with
        | .error b => .error (place, .text b)
        | .ok _ => passOthers names (place + 1) rest

/-- Passes the end of an object, behind all of its entries. -/
def closeEntries (entries : List (String × β)) (cut : Option Fault) : Placed Unit :=
  match cut with
  | some f => .error (entries.length, .text f.read)
  | none => .ok ()

/-- Passes the end of a list whose fields were all taken. -/
def closeItems (reading : Reading) (items : Items β) : Except DecodeError Unit :=
  match items.rest, reading with
  | [], _ => close items.cut
  | _ :: _, .streamed => .error (.text .malformed)
  | rest@(_ :: _), .whole => .error (.tooLong (items.taken + rest.length))
  | rest@(_ :: _), .kept => .error (.tooLongKept (items.taken + rest.length) items.taken)

/-- A record, written as an object or as a list of its fields. -/
def record (recordName : String) (fields : Fields Doc α) (reading : Reading) :
    Doc → Except DecodeError α
  | .obj entries cut =>
      (fields.keyed entries).settle (passOthers fields.names 0 entries) (closeEntries entries cut)
  | .arr items cut => do
      let short given := DecodeError.tooShort given recordName fields.names.length
      let (a, rest) ← fields.listed short ⟨0, items, cut⟩
      closeItems reading rest
      return a
  | d => mismatch (.record recordName) d

def position : Reading → Doc → Except DecodeError Position :=
  record "Position" <|
    ((Fields.required "line" int32).both (.required "column" int32)).map fun (line, column) =>
      { line, column }

def span (reading : Reading) : Doc → Except DecodeError Span :=
  record "Span" (fields.map fun (start, stop) => { start, stop }) reading
where
  fields := (Fields.optional "start" Position.unknown (position reading)).both
    (.optional "end" Position.unknown (position reading))

/-- The span that every node may carry. -/
def spanField (reading : Reading) (doc : β → Doc) : Fields β Span :=
  .optional "span" .unknown fun b => span reading (doc b)

/-! ### Nodes -/

/-- The number of levels that a text may nest. -/
def maxNesting : Nat := 127

/-- The level of a statement: it stands in a body, in a function, in a
program. -/
def stmtLevel : Nat := 4

/-- Sets the parts of a node aside, apart from its span. Only text that is just
being read can fail here. -/
def keepOthers (reading : Reading) (doc : β → Doc) : (place : Nat) → List (String × β) → Placed Unit
  | _, [] => .ok ()
  | place, (key, b) :: rest =>
      if key = "span" ∨ reading ≠ .streamed then keepOthers reading doc (place + 1) rest
      else
        match (doc b).keep (maxNesting - stmtLevel) with
        | .error b => .error (place, .text b)
        | .ok _ => keepOthers reading doc (place + 1) rest

/-- The kind of a node: its name, or its number among the kinds. -/
def nodeKind (kinds : List (String × α)) : Doc → Except DecodeError α
  | .str s => known (kinds.lookup ·) (kinds.map (·.1)) s
  | .int n =>
      if n < 0 then mismatch .nodeKind (.int n)
      else
        match kinds[n.toNat]? with
        | some (_, a) => .ok a
        | none => .error (.noSuchKind n kinds.length)
  | d => mismatch .nodeKind d

/-- A node from its entries. First the span is decoded and everything else set
aside, then the kind is found, and then the fields of that kind are decoded;
other keys do not matter. -/
def node (reading : Reading) (doc : β → Doc) (kinds : List (String × Fields β (Span → α)))
    (entries : List (String × β)) (cut : Option Fault) : Except DecodeError α := do
  let span ← ((spanField reading doc).keyed entries).settle
    (keepOthers reading doc 0 entries) (closeEntries entries cut)
  let fields ← ((Fields.required "node" fun b => nodeKind kinds (doc b)).keyed entries).strip
  let build ← (fields.keyed entries).strip
  return build span

/-- The kinds of expression. An entry comes with what it decodes to as an
expression. -/
def exprKinds : List (String × Fields (Doc × Except DecodeError Expr) (Span → Expr)) :=
  [("BinaryOp",
      ((Fields.required "left" Prod.snd).both
        ((Fields.required "op" fun b => operator .kept b.1).both (.required "right" Prod.snd))).map
        fun (left, op, right) => .binary left op right),
    ("Number", (Fields.required "value" fun b => int64 b.1).map .number),
    ("Boolean", (Fields.required "value" fun b => boolean b.1).map .boolean),
    ("Variable", (Fields.required "name" fun b => string b.1).map .var)]

mutual

/-- An expression. It is always part of a statement that was set aside. -/
def expr : Doc → Except DecodeError Expr
  | .obj entries cut => node .kept Prod.fst exprKinds (exprEntries entries) cut
  | d => mismatch (.record "Expr") d

/-- The entries of a node, each with what it decodes to as an expression. -/
def exprEntries : List (String × Doc) → List (String × Doc × Except DecodeError Expr)
  | [] => []
  | (key, d) :: rest => (key, d, expr d) :: exprEntries rest

end

def varDecl : Doc → Except DecodeError VarDecl :=
  record "VarDecl" (fields.map fun (name, init, span) => { name, init, span }) .kept
where
  fields := (Fields.required "name" string).both
    ((Fields.optional "init" none (nullable expr)).both (spanField .kept id))

/-- The kinds of statement. -/
def stmtKinds : List (String × Fields Doc (Span → Stmt)) :=
  [("Declaration",
      ((Fields.required "type" (typeName .kept)).both (.required "vars" (list varDecl))).map
        fun (type, vars) => .declaration type vars),
    ("Assignment",
      ((Fields.required "target" string).both (.required "value" expr)).map
        fun (target, value) => .assignment target value),
    ("ReturnStmt", (Fields.optional "value" none (nullable expr)).map .ret),
    ("ExprStmt", (Fields.required "expr" expr).map .expr)]

def stmt (reading : Reading) : Doc → Except DecodeError Stmt
  | .obj entries cut => node reading id stmtKinds entries cut
  | d => mismatch (.record "Stmt") d

/-! ### Programs -/

def param (reading : Reading) : Doc → Except DecodeError Param :=
  record "Param" (fields.map fun (type, name, span) => { type, name, span }) reading
where
  fields := (Fields.required "type" (typeName reading)).both
    ((Fields.required "name" string).both (spanField reading id))

def functionDef (reading : Reading) : Doc → Except DecodeError FunctionDef :=
  record "FunctionDef"
    (fields.map fun (returnType, name, params, body, span) =>
      { returnType, name, params, body, span })
    reading
where
  fields := (Fields.required "return_type" (typeName reading)).both
    ((Fields.required "name" string).both
      ((Fields.optional "params" [] (list (param reading))).both
        ((Fields.optional "body" [] (list (stmt reading))).both (spanField reading id))))

def program (reading : Reading) : Doc → Except DecodeError Program :=
  record "Program" (fields.map fun (function, span) => { function, span }) reading
where
  fields := (Fields.required "function" (functionDef reading)).both (spanField reading id)

end Decode

/-- The program tree that a JSON value holds. -/
def Program.ofValue (v : Json) : Except DecodeError Program := Decode.program .whole (.ofJson v)

/-- The program tree that a JSON text holds, with nothing but blanks behind
it. -/
def Program.ofText (text : String) : Except DecodeError Program := do
  let (doc, clean) := Doc.ofText text.toList
  let p ← Decode.program .streamed doc
  if clean then return p else throw (.text .malformed)

/-- The span that a JSON value holds. -/
def Span.ofValue (v : Json) : Except DecodeError Span := Decode.span .whole (.ofJson v)

/-- The type that a JSON value names. -/
def TypeName.ofValue (v : Json) : Except DecodeError TypeName :=
  Decode.typeName .whole (.ofJson v)

/-- The operator that a JSON value names. -/
def Operator.ofValue (v : Json) : Except DecodeError Operator :=
  Decode.operator .whole (.ofJson v)

end Scopewise
