/-
Decoding accepts exactly the grammar.

For every decoder there is one equivalence: it gives a result on the document of a
value without repeated keys exactly if the grammar relates the value to that
result. Records do not depend on how they are read. Names do: a part that was set
aside may have an empty object behind a name. So do statements: text that is just
being read must not nest too deeply (`Keeps`).
-/

import Scopewise.Proofs.Records

namespace Scopewise

/-- What may stand behind a name. -/
def Reading.Blank : Reading → Json → Prop
  | .kept => Json.IsBlank
  | _ => Json.IsNull

theorem TypeName.ofText?_eq_some_iff {s : String} {t : TypeName} :
    ofText? s = some t ↔ s = t.text := by
  constructor
  · intro found
    have spelled := List.find?_some found
    exact (beq_iff_eq.mp spelled).symm
  · rintro rfl
    exact ofText?_text t

theorem Operator.ofSpelling?_eq_some_iff {s : String} {o : Operator} :
    ofSpelling? s = some o ↔ s = o.keyword ∨ s = o.symbol := by
  constructor
  · intro found
    have spelled := List.find?_some found
    simp only [Bool.or_eq_true, beq_iff_eq] at spelled
    exact spelled.symm.imp Eq.symm Eq.symm
  · rintro (rfl | rfl)
    · exact ofSpelling?_keyword o
    · exact ofSpelling?_symbol o

namespace Decode

open Doc Grammar Json

variable {α β : Type}

/-! ### Scalars and lists -/

theorem accepts_string : Accepts string IsString := by
  intro v _ s
  cases v <;> simp [ofJson, string, mismatch, IsString]

theorem accepts_boolean : Accepts boolean IsBool := by
  intro v _ b
  cases v <;> simp [ofJson, boolean, mismatch, IsBool]

/-- An integer that is checked for its range and then converted. -/
theorem inRange_iff {ι : Type} {ofInt : Int → ι} {toInt : ι → Int} {low high : Int}
    (bounds : ∀ n, low ≤ toInt n ∧ toInt n ≤ high) (ofInt_toInt : ∀ n, ofInt (toInt n) = n)
    (toInt_ofInt : ∀ k, low ≤ k → k ≤ high → toInt (ofInt k) = k) {k : Int} {e : DecodeError}
    {n : ι} : (if low ≤ k ∧ k ≤ high then .ok (ofInt k) else .error e) = Except.ok n ↔
      k = toInt n := by
  constructor
  · intro decoded
    split at decoded
    next fits =>
      cases decoded
      exact (toInt_ofInt k fits.1 fits.2).symm
    next => cases decoded
  · rintro rfl
    rw [if_pos (bounds n), ofInt_toInt]

theorem accepts_int64 : Accepts int64 IsInt64 := by
  intro v _ n
  cases v with
  | int k =>
      simp only [ofJson, int64, IsInt64, Json.int.injEq]
      exact inRange_iff (fun n => ⟨n.minValue_le_toInt, n.toInt_le⟩) Int64.ofInt_toInt
        fun k low high => Int64.toInt_ofInt_of_le low (Int.lt_add_one_of_le high)
  | _ => simp [ofJson, int64, mismatch, IsInt64]

theorem accepts_int32 : Accepts int32 IsInt32 := by
  intro v _ n
  cases v with
  | int k =>
      simp only [ofJson, int32, IsInt32, Json.int.injEq]
      exact inRange_iff (fun n => ⟨n.minValue_le_toInt, n.toInt_le⟩) Int32.ofInt_toInt
        fun k low high => Int32.toInt_ofInt_of_le low (Int.lt_add_one_of_le high)
  | _ => simp [ofJson, int32, mismatch, IsInt32]

theorem mapM_eq_ok_iff {decode : Doc → Except DecodeError α} {IsA : Json → α → Prop}
    {items : List Json} (decoded : ∀ v ∈ items, ∀ a, decode (ofJson v) = .ok a ↔ IsA v a)
    (as : List α) : (items.map ofJson).mapM decode = .ok as ↔ List.Forall₂ IsA items as := by
  induction items generalizing as with
  | nil => cases as <;> simp [pure, Except.pure]
  | cons v items ih =>
      have first := decoded v List.mem_cons_self
      have others := ih fun v h => decoded v (List.mem_cons_of_mem _ h)
      simp only [List.map_cons, List.mapM_cons, Except.bind_eq_ok_iff, first, others]
      constructor
      · rintro ⟨a, isA, as, areAs, done⟩
        cases done
        exact .cons isA areAs
      · rintro (_ | ⟨isA, areAs⟩)
        exact ⟨_, isA, _, areAs, rfl⟩

theorem Accepts.list {decode : Doc → Except DecodeError α} {IsA : Json → α → Prop}
    (accepts : Accepts decode IsA) : Accepts (list decode) (IsList IsA) := by
  intro v distinct as
  cases distinct with
  | @arr items distinct =>
      have found := mapM_eq_ok_iff (fun v h => accepts v (distinct v h)) as
      simp [ofJson, Decode.list, ofItems_eq_map, Except.bind_eq_ok_iff, close, IsList, ← found,
        pure, Except.pure]
  | _ => simp [ofJson, Decode.list, mismatch, IsList]

theorem Accepts.nullable {decode : Doc → Except DecodeError α} {IsA : Json → α → Prop}
    (accepts : Accepts decode IsA) (notNull : ∀ a, ¬ IsA .null a) :
    Accepts (nullable decode) (IsNullable IsA) := by
  intro v distinct o
  constructor
  · intro found
    unfold Decode.nullable at found
    split at found
    next null =>
      cases found
      cases v <;> cases null
      exact .absent
    next =>
      obtain ⟨a, isA, rfl⟩ := Except.map_eq_ok_iff.mp found
      exact .present ((accepts v distinct a).mp isA)
  · rintro (_ | isA)
    · rfl
    · have found := (accepts v distinct _).mpr isA
      cases v with
      | null => exact absurd isA (notNull _)
      | _ => exact Except.map_eq_ok_iff.mpr ⟨_, found, rfl⟩

/-! ### Names -/

theorem unit_iff {reading : Reading} {v : Json} :
    unit reading (ofJson v) = .ok () ↔ reading.Blank v := by
  cases v with
  | obj entries =>
      cases entries <;> cases reading <;>
        simp [ofJson, ofEntries, unit, mismatch, Reading.Blank, IsBlank, IsNull]
  | _ => cases reading <;> simp [ofJson, unit, mismatch, Reading.Blank, IsBlank, IsNull]

/-- The only entry of an object that stands for a name. -/
theorem name_entry_iff {find? : String → Option α} {names : List String} {reading : Reading}
    {key : String} {v : Json} {a : α} :
    name find? names reading (.obj [(key, ofJson v)] none) = .ok a ↔
      find? key = some a ∧ reading.Blank v := by
  have spelled : known find? names key = .ok a ↔ find? key = some a := known_eq_ok_iff
  rw [← unit_iff, ← spelled]
  cases reading <;> simp [name, Except.bind_eq_ok_iff, Unique.exists_iff, pure, Except.pure]

theorem name_iff {find? : String → Option α} {names : List String} {reading : Reading} {v : Json}
    {a : α} :
    name find? names reading (ofJson v) = .ok a ↔
      IsName (fun s a => find? s = some a) reading.Blank v a := by
  constructor
  · intro found
    match v with
    | .str s => exact .alone (known_eq_ok_iff.mp found)
    | .obj [(key, v)] =>
        obtain ⟨spelled, blank⟩ := name_entry_iff.mp found
        exact .keyed spelled blank
    | .obj [] => cases reading <;> cases found
    | .obj ((key, v) :: (key', v') :: entries) =>
        cases reading with
        | streamed =>
            simp only [ofJson, ofEntries, name, Except.bind_eq_ok_iff] at found
            obtain ⟨_, -, _, -, done⟩ := found
            cases done
        | whole | kept => cases found
    | .null | .bool _ | .int _ | .double _ | .arr _ => cases reading <;> cases found
  · rintro (spelled | ⟨spelled, blank⟩)
    · exact known_eq_ok_iff.mpr spelled
    · exact name_entry_iff.mpr ⟨spelled, blank⟩

theorem accepts_typeName (reading : Reading) :
    Accepts (typeName reading) (IsTypeName reading.Blank) := by
  intro v _ t
  simp only [typeName, name_iff, TypeName.ofText?_eq_some_iff, IsTypeName]

theorem accepts_operator (reading : Reading) :
    Accepts (operator reading) (IsOperator reading.Blank) := by
  intro v _ o
  simp only [operator, name_iff, Operator.ofSpelling?_eq_some_iff, IsOperator]

/-! ### Places -/

theorem accepts_position (reading : Reading) : Accepts (position reading) IsPosition := by
  have fields := (accepts_int32.required "line").both (accepts_int32.required "column") (by simp)
  refine accepts_record (fields.mapParts (fun p : Position => (p.line, p.column)) ?_) _ reading
  rintro ⟨line, column⟩ ⟨line', column'⟩
  simp

theorem accepts_span (reading : Reading) : Accepts (span reading) IsSpan := by
  have fields := ((accepts_position reading).optional "start" .unknown).both
    ((accepts_position reading).optional "end" .unknown) (by simp)
  refine accepts_record (fields.mapParts (fun s : Span => (s.start, s.stop)) ?_) _ reading
  rintro ⟨start, stop⟩ ⟨start', stop'⟩
  simp

/-! ### Nodes -/

section Nodes

variable {enc : Json → β} {doc : β → Doc} (document : ∀ v, doc (enc v) = ofJson v)
include document

/-- The entry `node` gives the kind, by its name or by its number. -/
theorem hasKind_iff {kinds : List (String × α)} (kindNames : (kinds.map Prod.fst).Nodup)
    {entries : List (String × Json)} (distinct : (entries.map Prod.fst).Nodup) (a : α) :
    (Fields.required "node" fun b => nodeKind kinds (doc b)).keyed
        (entries.map fun e => (e.1, enc e.2)) = .ok a ↔
      ∃ (i : Nat) (name : String), kinds[i]? = some (name, a) ∧ HasKind name i entries := by
  have means : (Fields.required "node" fun b => nodeKind kinds (doc b)).Means (fun _ => True) enc
      fun slot a => Needs (fun v a => ∃ (i : Nat) (name : String),
        kinds[i]? = some (name, a) ∧ (v = .str name ∨ v = .int i)) (slot "node") a := by
    refine Fields.means_required (fun v _ a => ?_) "node"
    rw [document]
    exact nodeKind_eq_ok_iff kindNames
  rw [means.keyed distinct (fun _ _ => trivial), needs_iff]
  constructor
  · rintro ⟨v, found, i, name, kind, rfl | rfl⟩
    · exact ⟨i, name, kind, .inl found⟩
    · exact ⟨i, name, kind, .inr found⟩
  · rintro ⟨i, name, kind, found | found⟩
    · exact ⟨_, found, i, name, kind, .inl rfl⟩
    · exact ⟨_, found, i, name, kind, .inr rfl⟩

/-- A node is its span and the fields of its kind. -/
theorem node_iff {reading : Reading} {kinds : List (String × Fields β (Span → α))}
    (kindNames : (kinds.map Prod.fst).Nodup) {entries : List (String × Json)}
    (distinct : (entries.map Prod.fst).Nodup) (values : ∀ e ∈ entries, e.2.Distinct) (a : α) :
    node reading doc kinds (entries.map fun e => (e.1, enc e.2)) none = .ok a ↔
      Keeps reading entries ∧ ∃ (i : Nat) (name : String) (fields : Fields β (Span → α))
        (build : Span → α) (span : Span), kinds[i]? = some (name, fields) ∧
          HasKind name i entries ∧ fields.keyed (entries.map fun e => (e.1, enc e.2)) = .ok build ∧
          SpanPart (entries.lookup "span") span ∧ build span = a := by
  have span : (spanField reading doc).Means Json.Distinct enc
      fun slot s => SpanPart (slot "span") s := by
    refine Fields.means_optional (fun v distinct s => ?_) "span" Span.unknown
    rw [document]
    exact accepts_span reading v distinct s
  simp only [node, Except.bind_eq_ok_iff, Placed.settle_eq_ok_iff, Placed.strip_eq_ok_iff,
    span.keyed distinct values, keepOthers_eq_ok_iff document, closeEntries,
    hasKind_iff document kindNames distinct, and_true]
  constructor
  · rintro ⟨span, ⟨spanPart, keeps⟩, fields, ⟨i, name, kind, hasKind⟩, build, found, done⟩
    cases done
    exact ⟨keeps, i, name, fields, build, span, kind, hasKind, found, spanPart, rfl⟩
  · rintro ⟨keeps, i, name, fields, build, span, kind, hasKind, found, spanPart, rfl⟩
    exact ⟨span, ⟨spanPart, keeps⟩, fields, ⟨i, name, kind, hasKind⟩, build, found, rfl⟩

end Nodes

/-- An entry of an expression: its document, and what that is as an expression. -/
def exprPart (v : Json) : Doc × Except DecodeError Expr := (ofJson v, expr (ofJson v))

theorem exprPart_fst (v : Json) : (exprPart v).1 = ofJson v := rfl

theorem exprEntries_ofEntries (entries : List (String × Json)) :
    exprEntries (ofEntries entries) = entries.map fun e => (e.1, exprPart e.2) := by
  induction entries with
  | nil => rfl
  | cons e rest ih =>
      obtain ⟨key, value⟩ := e
      rw [ofEntries, exprEntries, ih]
      rfl

/-- The decoders agree with the grammar on a part of an expression. -/
def ExprReady (v : Json) : Prop :=
  v.Distinct ∧ ∀ e, expr (ofJson v) = .ok e ↔ IsExpr IsBlank v e

theorem means_operand (name : String) : (Fields.required name Prod.snd).Means ExprReady exprPart
    fun slot e => Needs (IsExpr IsBlank) (slot name) e :=
  Fields.means_required (fun _ ready => ready.2) name

theorem Accepts.exprPart {decode : Doc → Except DecodeError α} {IsA : Json → α → Prop}
    (accepts : Accepts decode IsA) (name : String) :
    (Fields.required name fun b => decode b.1).Means ExprReady exprPart
      fun slot a => Needs IsA (slot name) a := by
  refine Fields.means_required (fun v ready => ?_) name
  exact accepts v ready.1

theorem expr_obj_iff {entries : List (String × Json)} (distinct : (entries.map Prod.fst).Nodup)
    (ready : ∀ e ∈ entries, ExprReady e.2) (e : Expr) :
    expr (ofJson (.obj entries)) = .ok e ↔ IsExpr IsBlank (.obj entries) e := by
  have binary := (((means_operand "left").both (((accepts_operator .kept).exprPart "op").both
    (means_operand "right") (by simp)) (by simp)).map
      fun parts => Expr.binary parts.1 parts.2.1 parts.2.2).keyed distinct ready
  have number := ((accepts_int64.exprPart "value").map Expr.number).keyed distinct ready
  have boolean := ((accepts_boolean.exprPart "value").map Expr.boolean).keyed distinct ready
  have var := ((accepts_string.exprPart "name").map Expr.var).keyed distinct ready
  rw [ofJson, expr, exprEntries_ofEntries,
    node_iff exprPart_fst (by decide) distinct (fun e h => (ready e h).1)]
  constructor
  · rintro ⟨-, i, name, fields, build, span, kind, hasKind, found, spanPart, rfl⟩
    -- There are four kinds; any other number finds none.
    rcases i with _ | _ | _ | _ | _ <;> cases kind
    · obtain ⟨⟨left, op, right⟩, ⟨isLeft, isOp, isRight⟩, rfl⟩ := (binary build).mp found
      obtain ⟨l, atLeft, isLeft⟩ := needs_iff.mp isLeft
      obtain ⟨r, atRight, isRight⟩ := needs_iff.mp isRight
      exact .binary hasKind atLeft isLeft isOp atRight isRight spanPart
    · obtain ⟨value, isValue, rfl⟩ := (number build).mp found
      exact .number hasKind isValue spanPart
    · obtain ⟨value, isValue, rfl⟩ := (boolean build).mp found
      exact .boolean hasKind isValue spanPart
    · obtain ⟨name, isName, rfl⟩ := (var build).mp found
      exact .var hasKind isName spanPart
  · intro isExpr
    refine ⟨nofun, ?_⟩
    cases isExpr with
    | @binary _ _ _ left right op span hasKind atLeft isLeft isOp atRight isRight spanPart =>
        have found := (binary _).mpr ⟨(left, op, right), ⟨needs_iff.mpr ⟨_, atLeft, isLeft⟩, isOp,
          needs_iff.mpr ⟨_, atRight, isRight⟩⟩, rfl⟩
        exact ⟨0, _, _, _, span, rfl, hasKind, found, spanPart, rfl⟩
    | @number _ value span hasKind isValue spanPart =>
        have found := (number _).mpr ⟨value, isValue, rfl⟩
        exact ⟨1, _, _, _, span, rfl, hasKind, found, spanPart, rfl⟩
    | @boolean _ value span hasKind isValue spanPart =>
        have found := (boolean _).mpr ⟨value, isValue, rfl⟩
        exact ⟨2, _, _, _, span, rfl, hasKind, found, spanPart, rfl⟩
    | @var _ name span hasKind isName spanPart =>
        have found := (var _).mpr ⟨name, isName, rfl⟩
        exact ⟨3, _, _, _, span, rfl, hasKind, found, spanPart, rfl⟩

theorem accepts_expr : Accepts expr (IsExpr IsBlank) := by
  intro v distinct
  induction distinct with
  | null | bool | int | double | str | arr =>
      intro e
      constructor
      · intro found
        cases found
      · rintro ⟨⟩
  | obj distinct values ih =>
      -- An operand is an entry of the object, so the induction has it ready.
      exact expr_obj_iff distinct fun e h => ⟨values e h, ih e h⟩

theorem accepts_initial : Accepts (nullable expr) (IsNullable (IsExpr IsBlank)) :=
  accepts_expr.nullable nofun

@[simp] theorem names_spanField (reading : Reading) (doc : β → Doc) :
    (spanField reading doc).names = ["span"] := rfl

theorem means_spanField (reading : Reading) : (spanField reading id).Means Json.Distinct ofJson
    fun slot s => SpanPart (slot "span") s :=
  (accepts_span reading).optional "span" .unknown

theorem accepts_varDecl : Accepts varDecl (IsVarDecl IsBlank) := by
  have fields := (accepts_string.required "name").both
    ((accepts_initial.optional "init" none).both (means_spanField .kept) (by simp)) (by simp)
  refine accepts_record (fields.mapParts (fun d : VarDecl => (d.name, d.init, d.span)) ?_) _ .kept
  rintro ⟨name, init, span⟩ ⟨name', init', span'⟩
  simp

/-- The parts of a statement can be set aside. -/
def Fits (reading : Reading) : Json → Prop
  | .obj entries => Keeps reading entries
  | _ => True

theorem fits_whole (v : Json) : Fits .whole v := by
  cases v <;> simp [Fits, Keeps]

theorem stmt_obj_iff (reading : Reading) {entries : List (String × Json)}
    (distinct : (entries.map Prod.fst).Nodup) (values : ∀ e ∈ entries, e.2.Distinct) (s : Stmt) :
    stmt reading (ofJson (.obj entries)) = .ok s ↔
      Keeps reading entries ∧ IsStmt IsBlank (.obj entries) s := by
  have declaration := ((((accepts_typeName .kept).required "type").both
    (accepts_varDecl.list.required "vars") (by simp)).map
      fun parts => Stmt.declaration parts.1 parts.2).keyed distinct values
  have assignment := (((accepts_string.required "target").both (accepts_expr.required "value")
    (by simp)).map fun parts => Stmt.assignment parts.1 parts.2).keyed distinct values
  have ret := ((accepts_initial.optional "value" none).map Stmt.ret).keyed distinct values
  have expr := ((accepts_expr.required "expr").map Stmt.expr).keyed distinct values
  rw [ofJson, stmt, ofEntries_eq_map,
    node_iff (fun v => id_eq (ofJson v)) (by decide) distinct values]
  refine and_congr_right fun _ => ?_
  constructor
  · rintro ⟨i, name, fields, build, span, kind, hasKind, found, spanPart, rfl⟩
    rcases i with _ | _ | _ | _ | _ <;> cases kind
    · obtain ⟨⟨type, vars⟩, ⟨isType, areVars⟩, rfl⟩ := (declaration build).mp found
      exact .declaration hasKind isType areVars spanPart
    · obtain ⟨⟨target, value⟩, ⟨isTarget, isValue⟩, rfl⟩ := (assignment build).mp found
      exact .assignment hasKind isTarget isValue spanPart
    · obtain ⟨value, isValue, rfl⟩ := (ret build).mp found
      exact .ret hasKind isValue spanPart
    · obtain ⟨value, isValue, rfl⟩ := (expr build).mp found
      exact .expr hasKind isValue spanPart
  · rintro (⟨hasKind, isType, areVars, spanPart⟩ | ⟨hasKind, isTarget, isValue, spanPart⟩ |
      ⟨hasKind, isValue, spanPart⟩ | ⟨hasKind, isValue, spanPart⟩)
    · exact ⟨0, _, _, _, _, rfl, hasKind, (declaration _).mpr ⟨(_, _), ⟨isType, areVars⟩, rfl⟩,
        spanPart, rfl⟩
    · exact ⟨1, _, _, _, _, rfl, hasKind, (assignment _).mpr ⟨(_, _), ⟨isTarget, isValue⟩, rfl⟩,
        spanPart, rfl⟩
    · exact ⟨2, _, _, _, _, rfl, hasKind, (ret _).mpr ⟨_, isValue, rfl⟩, spanPart, rfl⟩
    · exact ⟨3, _, _, _, _, rfl, hasKind, (expr _).mpr ⟨_, isValue, rfl⟩, spanPart, rfl⟩

theorem accepts_stmt (reading : Reading) :
    Accepts (stmt reading) fun v s => Fits reading v ∧ IsStmt IsBlank v s := by
  intro v distinct s
  cases distinct with
  | obj distinct values => exact stmt_obj_iff reading distinct values s
  | _ =>
      constructor
      · intro found
        cases found
      · rintro ⟨-, ⟨⟩⟩

/-! ### Programs -/

section Programs

variable (reading : Reading) (direct : reading.Blank = IsNull)
include direct

theorem accepts_param : Accepts (param reading) IsParam := by
  have fields := ((accepts_typeName reading).required "type").both
    ((accepts_string.required "name").both (means_spanField reading) (by simp)) (by simp)
  rw [direct] at fields
  refine accepts_record (fields.mapParts (fun p : Param => (p.type, p.name, p.span)) ?_) _ reading
  rintro ⟨type, name, span⟩ ⟨type', name', span'⟩
  simp

theorem accepts_functionDef : Accepts (functionDef reading)
    (IsFunctionDef fun v s => Fits reading v ∧ IsStmt IsBlank v s) := by
  have fields := ((accepts_typeName reading).required "return_type").both
    ((accepts_string.required "name").both
      (((accepts_param reading direct).list.optional "params" []).both
        (((accepts_stmt reading).list.optional "body" []).both (means_spanField reading)
          (by simp)) (by simp)) (by simp)) (by simp)
  rw [direct] at fields
  refine accepts_record (fields.mapParts
    (fun f : FunctionDef => (f.returnType, f.name, f.params, f.body, f.span)) ?_) _ reading
  rintro ⟨returnType, name, params, body, span⟩ ⟨returnType', name', params', body', span'⟩
  simp

/-- Programs are accepted as the grammar has them, with statements that can be set
aside. -/
theorem accepts_program : Accepts (program reading)
    (IsProgram fun v s => Fits reading v ∧ IsStmt IsBlank v s) := by
  have fields := ((accepts_functionDef reading direct).required "function").both
    (means_spanField reading) (by simp)
  refine accepts_record (fields.mapParts (fun p : Program => (p.function, p.span)) ?_) _ reading
  rintro ⟨function, span⟩ ⟨function', span'⟩
  simp

end Programs

end Decode

open Grammar Json

theorem Program.ofValue_eq_ok_iff {v : Json} (distinct : v.Distinct) (p : Program) :
    ofValue v = .ok p ↔ Represents IsBlank v p := by
  have accepts := Decode.accepts_program .whole rfl v distinct p
  simp only [Decode.fits_whole, true_and] at accepts
  exact accepts

/-- **Decoding is the grammar.** A value without repeated keys is decoded exactly to
the program that it stands for. So it stands for one program at most, and a value
that stands for none is rejected. Inside a statement an empty object may stand
behind a name, as null may everywhere. -/
theorem Program.ofValue_iff_represents {v : Json} (distinct : v.Distinct) :
    (∀ p, ofValue v = .ok p ↔ Represents IsBlank v p) ∧
      (∀ p q, Represents IsBlank v p → Represents IsBlank v q → p = q) ∧
      ((¬ ∃ p, Represents IsBlank v p) → ∃ e, ofValue v = .error e) := by
  have accepts := ofValue_eq_ok_iff distinct
  refine ⟨accepts, ?_, ?_⟩
  · intro p q isP isQ
    have same := ((accepts p).mpr isP).symm.trans ((accepts q).mpr isQ)
    exact Except.ok.inj same
  · intro none
    cases found : ofValue v with
    | error e => exact ⟨e, rfl⟩
    | ok p => exact absurd ⟨p, (accepts p).mp found⟩ none

/-- A program whose only declaration has an empty object behind the name of its
type. -/
def Json.blankType : Json :=
  .obj [("function", .obj [("return_type", .str "void"), ("name", .str "f"),
    ("body", .arr [.obj [("node", .str "Declaration"), ("type", .obj [("int", .obj [])]),
      ("vars", .arr [])]])])]

theorem Json.distinct_blankType : blankType.Distinct := by
  simp [blankType]

/-- The empty object is read like null. -/
theorem Program.represents_blankType :
    blankType.Distinct ∧ Represents IsBlank blankType
      ⟨⟨.void, "f", [], [.declaration .int [] .unknown], .unknown⟩, .unknown⟩ :=
  ⟨distinct_blankType, ((Program.ofValue_iff_represents distinct_blankType).1 _).mp (by decide)⟩

/-- With null alone behind names the grammar would be too small. -/
theorem Program.ofValue_blankType :
    blankType.Distinct ∧ (∃ p, Program.ofValue blankType = .ok p) ∧
      ¬ ∃ p, Represents IsNull blankType p := by
  refine ⟨distinct_blankType,
    ⟨⟨⟨.void, "f", [], [.declaration .int [] .unknown], .unknown⟩, .unknown⟩, by decide⟩, ?_⟩
  rintro ⟨p, isProgram⟩
  obtain ⟨isFunction, -⟩ := exists_record_obj.mp isProgram
  obtain ⟨-, -, -, isBody, -⟩ := exists_record_obj.mp (needs_some.mp isFunction)
  obtain ⟨_, ⟨⟩, isStmts⟩ := allows_some.mp isBody
  obtain ⟨s, rest, isStmt, -⟩ := List.forall₂_cons_left_iff.mp isStmts
  have strict (t : TypeName) : ¬ IsTypeName IsNull (.obj [("int", .obj [])]) t := by
    rintro (_ | ⟨-, ⟨⟩⟩)
  rcases isStmt with ⟨-, isType, -, -⟩ | ⟨wrong | wrong, -⟩ | ⟨wrong | wrong, -⟩ |
    ⟨wrong | wrong, -⟩
  · exact strict _ (needs_some.mp isType)
  all_goals simp at wrong

end Scopewise
