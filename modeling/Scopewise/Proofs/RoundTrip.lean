/-
A program that is written and read again.

The encoding of a program stands for that program in the grammar, has no repeated
keys and prints as plain text. So its value is decoded to the program. Its text is
read in one pass, and a statement that nests too deeply cannot be set aside there:
the text is decoded exactly if it nests no deeper than 127 levels.
-/

import Scopewise.Exchange.Encode
import Scopewise.Proofs.Acceptance
import Scopewise.Proofs.JsonText

namespace Scopewise

open Json Grammar

/-! ### Encodings -/

/-- A plain value without repeated keys. -/
def Json.Tidy (v : Json) : Prop := v.Plain ∧ v.Distinct

namespace Json

theorem tidy_null : Tidy .null := ⟨.null, .null⟩

theorem tidy_bool (b : Bool) : Tidy (.bool b) := ⟨.bool b, .bool b⟩

theorem tidy_str (s : String) : Tidy (.str s) := ⟨.str s, .str s⟩

theorem tidy_int64 (n : Int64) : Tidy (.int n.toInt) := by
  refine ⟨.int n.le_toInt ?_, .int _⟩
  exact Int.lt_trans n.toInt_lt (by decide)

theorem tidy_int32 (n : Int32) : Tidy (.int n.toInt) := by
  refine ⟨.int ?_ ?_, .int _⟩
  · exact Int.le_trans (by decide) n.le_toInt
  · exact Int.lt_trans n.toInt_lt (by decide)

theorem tidy_arr {α : Type} {encode : α → Json} (tidy : ∀ a, (encode a).Tidy) (as : List α) :
    Tidy (.arr (as.map encode)) := by
  constructor
  · refine .arr fun v h => ?_
    obtain ⟨a, -, rfl⟩ := List.mem_map.mp h
    exact (tidy a).1
  · refine .arr fun v h => ?_
    obtain ⟨a, -, rfl⟩ := List.mem_map.mp h
    exact (tidy a).2

theorem tidy_obj {entries : List (String × Json)} (keys : (entries.map Prod.fst).Nodup)
    (values : ∀ e ∈ entries, e.2.Tidy) : Tidy (.obj entries) :=
  ⟨.obj fun e h => (values e h).1, .obj keys fun e h => (values e h).2⟩

end Json

theorem Position.tidy_toJson (p : Position) : p.toJson.Tidy :=
  tidy_obj (by simp) (by simp [tidy_int32])

theorem Span.tidy_toJson (s : Span) : s.toJson.Tidy :=
  tidy_obj (by simp) (by simp [Position.tidy_toJson])

theorem TypeName.tidy_toJson (t : TypeName) : t.toJson.Tidy := tidy_str _

theorem Operator.tidy_toJson (o : Operator) : o.toJson.Tidy := tidy_str _

theorem Expr.tidy_toJson (e : Expr) : e.toJson.Tidy := by
  induction e with
  | binary left op right span isLeft isRight =>
      exact tidy_obj (by simp)
        (by simp [tidy_str, isLeft, isRight, op.tidy_toJson, span.tidy_toJson])
  | number value span =>
      exact tidy_obj (by simp) (by simp [tidy_str, tidy_int64, span.tidy_toJson])
  | boolean value span =>
      exact tidy_obj (by simp) (by simp [tidy_str, tidy_bool, span.tidy_toJson])
  | var name span => exact tidy_obj (by simp) (by simp [tidy_str, span.tidy_toJson])

theorem Expr.tidy_optionalJson (o : Option Expr) : (Expr.optionalJson o).Tidy := by
  cases o with
  | none => exact tidy_null
  | some e => exact e.tidy_toJson

theorem VarDecl.tidy_toJson (d : VarDecl) : d.toJson.Tidy :=
  tidy_obj (by simp) (by simp [tidy_str, Expr.tidy_optionalJson, Span.tidy_toJson])

theorem Stmt.tidy_toJson (s : Stmt) : s.toJson.Tidy := by
  cases s with
  | declaration type vars span =>
      exact tidy_obj (by simp)
        (by simp [tidy_str, type.tidy_toJson, tidy_arr VarDecl.tidy_toJson, span.tidy_toJson])
  | assignment target value span =>
      exact tidy_obj (by simp) (by simp [tidy_str, value.tidy_toJson, span.tidy_toJson])
  | ret value span =>
      exact tidy_obj (by simp) (by simp [tidy_str, Expr.tidy_optionalJson, span.tidy_toJson])
  | expr value span =>
      exact tidy_obj (by simp) (by simp [tidy_str, value.tidy_toJson, span.tidy_toJson])

theorem Param.tidy_toJson (p : Param) : p.toJson.Tidy :=
  tidy_obj (by simp) (by simp [tidy_str, TypeName.tidy_toJson, Span.tidy_toJson])

theorem FunctionDef.tidy_toJson (f : FunctionDef) : f.toJson.Tidy :=
  tidy_obj (by simp) (by
    simp [tidy_str, TypeName.tidy_toJson, tidy_arr Param.tidy_toJson, tidy_arr Stmt.tidy_toJson,
      Span.tidy_toJson])

theorem Program.tidy_toJson (p : Program) : p.toJson.Tidy :=
  tidy_obj (by simp) (by simp [FunctionDef.tidy_toJson, Span.tidy_toJson])

/-! ### Encodings in the grammar -/

theorem Position.isPosition_toJson (p : Position) : IsPosition p.toJson p :=
  exists_record_obj.mpr ⟨.present rfl, .present rfl⟩

theorem Span.isSpan_toJson (s : Span) : IsSpan s.toJson s :=
  exists_record_obj.mpr ⟨.present s.start.isPosition_toJson, .present s.stop.isPosition_toJson⟩

theorem Span.spanPart_toJson (s : Span) : SpanPart (some s.toJson) s := .present s.isSpan_toJson

theorem TypeName.isTypeName_toJson (Blank : Json → Prop) (t : TypeName) :
    IsTypeName Blank t.toJson t := .alone rfl

theorem Operator.isOperator_toJson (Blank : Json → Prop) (o : Operator) :
    IsOperator Blank o.toJson o := .alone (.inl rfl)

theorem Expr.isExpr_toJson (Blank : Json → Prop) (e : Expr) : IsExpr Blank e.toJson e := by
  induction e with
  | binary left op right span isLeft isRight =>
      exact .binary (.inl rfl) rfl isLeft (.present (op.isOperator_toJson Blank)) rfl isRight
        span.spanPart_toJson
  | number value span => exact .number (.inl rfl) (.present rfl) span.spanPart_toJson
  | boolean value span => exact .boolean (.inl rfl) (.present rfl) span.spanPart_toJson
  | var name span => exact .var (.inl rfl) (.present rfl) span.spanPart_toJson

theorem Expr.isNullable_optionalJson (Blank : Json → Prop) (o : Option Expr) :
    IsNullable (IsExpr Blank) (Expr.optionalJson o) o := by
  cases o with
  | none => exact .absent
  | some e => exact .present (e.isExpr_toJson Blank)

theorem isList_map {α : Type} {IsA : Json → α → Prop} {encode : α → Json} {as : List α}
    (isA : ∀ a ∈ as, IsA (encode a) a) : IsList IsA (.arr (as.map encode)) as := by
  refine ⟨_, rfl, ?_⟩
  rw [List.forall₂_map_left_iff, List.forall₂_same]
  exact isA

theorem VarDecl.isVarDecl_toJson (Blank : Json → Prop) (d : VarDecl) :
    IsVarDecl Blank d.toJson d :=
  exists_record_obj.mpr ⟨.present rfl, .present (Expr.isNullable_optionalJson Blank d.init),
    d.span.spanPart_toJson⟩

theorem Stmt.isStmt_toJson (Blank : Json → Prop) (s : Stmt) : IsStmt Blank s.toJson s := by
  cases s with
  | declaration type vars span =>
      have areVars : IsList (IsVarDecl Blank) (.arr (vars.map VarDecl.toJson)) vars :=
        isList_map fun d _ => d.isVarDecl_toJson Blank
      exact .declaration (.inl rfl) (.present (type.isTypeName_toJson Blank)) (.present areVars)
        span.spanPart_toJson
  | assignment target value span =>
      exact .assignment (.inl rfl) (.present rfl) (.present (value.isExpr_toJson Blank))
        span.spanPart_toJson
  | ret value span =>
      exact .ret (.inl rfl) (.present (Expr.isNullable_optionalJson Blank value))
        span.spanPart_toJson
  | expr value span =>
      exact .expr (.inl rfl) (.present (value.isExpr_toJson Blank)) span.spanPart_toJson

theorem Param.isParam_toJson (p : Param) : IsParam p.toJson p :=
  exists_record_obj.mpr ⟨.present (p.type.isTypeName_toJson IsNull), .present rfl,
    p.span.spanPart_toJson⟩

variable {Statement : Json → Stmt → Prop}

theorem Program.isProgram_toJson {p : Program}
    (statements : ∀ s ∈ p.function.body, Statement s.toJson s) :
    IsProgram Statement p.toJson p := by
  have areParams : IsList IsParam (.arr (p.function.params.map Param.toJson)) p.function.params :=
    isList_map fun q _ => q.isParam_toJson
  have isFunction : IsFunctionDef Statement p.function.toJson p.function :=
    exists_record_obj.mpr ⟨.present (p.function.returnType.isTypeName_toJson IsNull), .present rfl,
      .present areParams, .present (isList_map statements), p.function.span.spanPart_toJson⟩
  exact exists_record_obj.mpr ⟨.present isFunction, p.span.spanPart_toJson⟩

/-- Whatever an encoded program is taken for, every statement in it is taken for
one. -/
theorem Program.statement_of_isProgram {p q : Program} (isProgram : IsProgram Statement p.toJson q)
    {s : Stmt} (mem : s ∈ p.function.body) : ∃ t, Statement s.toJson t := by
  obtain ⟨isFunction, -⟩ := exists_record_obj.mp isProgram
  obtain ⟨-, -, -, isBody, -⟩ := exists_record_obj.mp (needs_some.mp isFunction)
  obtain ⟨_, ⟨⟩, areStatements⟩ := allows_some.mp isBody
  rw [List.forall₂_map_left_iff] at areStatements
  obtain ⟨i, inside, rfl⟩ := List.getElem_of_mem mem
  have length := areStatements.length_eq
  exact ⟨_, areStatements.get inside (length ▸ inside)⟩

/-! ### Nesting -/

namespace Json

theorem nestingItems_le_iff {items : List Json} {n : Nat} :
    nestingItems items ≤ n ↔ ∀ v ∈ items, v.nesting ≤ n := by
  induction items with
  | nil => simp [nestingItems]
  | cons v items ih => simp only [nestingItems, Nat.max_le, ih, List.forall_mem_cons]

theorem nestingEntries_le_iff {entries : List (String × Json)} {n : Nat} :
    nestingEntries entries ≤ n ↔ ∀ e ∈ entries, e.2.nesting ≤ n := by
  induction entries with
  | nil => simp [nestingEntries]
  | cons e entries ih =>
      obtain ⟨key, value⟩ := e
      simp only [nestingEntries, Nat.max_le, ih, List.forall_mem_cons]

end Json

theorem Span.nesting_toJson (s : Span) : s.toJson.nesting = 2 := rfl

theorem Param.nesting_toJson (p : Param) : p.toJson.nesting = 3 := rfl

/-- The fields of a node decide whether it fits: its kind and its span do not nest
deeply. -/
theorem fits_nodeJson_iff {fields : List (String × Json)} (others : ∀ e ∈ fields, e.1 ≠ "span")
    (kind : String) (span : Span) :
    Decode.Fits .streamed (nodeJson kind fields span) ↔
      (nodeJson kind fields span).nesting ≤ 124 := by
  have levels : (nodeJson kind fields span).nesting ≤ 124 ↔ ∀ e ∈ fields, e.2.nesting ≤ 123 := by
    rw [nodeJson, Json.nesting, Nat.succ_le_succ_iff, nestingEntries_le_iff]
    simp only [List.forall_mem_cons, List.forall_mem_append, Json.nesting, span.nesting_toJson]
    simp
  have kept : Decode.Fits .streamed (nodeJson kind fields span) ↔
      ∀ e ∈ fields, e.2.nesting ≤ 123 := by
    simp only [nodeJson, Decode.Fits, Decode.Keeps, List.forall_mem_cons, List.forall_mem_append,
      Json.nesting]
    constructor
    · intro keeps e mem
      exact (keeps trivial).2.1 e mem (others e mem)
    · intro fits _
      refine ⟨fun _ => Nat.zero_le _, fun e mem _ => fits e mem, ?_⟩
      simp
  rw [levels, kept]

/-- A statement can be set aside if it leaves room for what stands around it. -/
theorem Stmt.fits_toJson_iff (s : Stmt) :
    Decode.Fits .streamed s.toJson ↔ s.toJson.nesting ≤ 124 := by
  cases s <;> exact fits_nodeJson_iff (by simp) _ _

theorem Program.nesting_toJson_le_iff (p : Program) :
    p.toJson.nesting ≤ 127 ↔ ∀ s ∈ p.function.body, Decode.Fits .streamed s.toJson := by
  have params : nestingItems (p.function.params.map Param.toJson) ≤ 3 := by
    rw [nestingItems_le_iff]
    simp [Param.nesting_toJson]
  have body : nestingItems (p.function.body.map Stmt.toJson) ≤ 124 ↔
      ∀ s ∈ p.function.body, Decode.Fits .streamed s.toJson := by
    rw [nestingItems_le_iff]
    simp [Stmt.fits_toJson_iff]
  rw [← body]
  simp only [Program.toJson, FunctionDef.toJson, TypeName.toJson, Json.nesting, nestingEntries,
    Span.nesting_toJson]
  omega

/-! ### The round trip -/

/-- The text of a program is decoded as its value is, as far as its statements can
be set aside. -/
theorem Program.ofText_toText_eq_ok_iff (p q : Program) :
    Program.ofText p.toText = .ok q ↔
      IsProgram (fun v s => Decode.Fits .streamed v ∧ IsStmt IsBlank v s) p.toJson q := by
  obtain ⟨plain, distinct⟩ := p.tidy_toJson
  have accepts := Decode.accepts_program .streamed rfl p.toJson distinct q
  rw [← accepts]
  simp [Program.ofText, Program.toText, Json.compact, Doc.ofText_chars plain]

/-- **Round trip.** The text of a program is decoded to the program exactly if it
nests at most 127 levels deep, and a deeper text is rejected. The value of a
program is decoded to the program in any case. -/
theorem Program.ofText_toText (p : Program) :
    (Program.ofText p.toText = .ok p ↔ Token.nesting p.toText.toList ≤ 127) ∧
      (127 < Token.nesting p.toText.toList → ∃ e, Program.ofText p.toText = .error e) ∧
      Program.ofValue p.toJson = .ok p := by
  obtain ⟨plain, distinct⟩ := p.tidy_toJson
  have levels : Token.nesting p.toText.toList ≤ 127 ↔
      ∀ s ∈ p.function.body, Decode.Fits .streamed s.toJson := by
    rw [Program.toText, Json.compact, String.toList_ofList, Token.nesting_chars plain,
      p.nesting_toJson_le_iff]
  -- Whatever was decoded, every statement was set aside on the way.
  have shallow {q : Program} (decoded : Program.ofText p.toText = .ok q) :
      Token.nesting p.toText.toList ≤ 127 := by
    refine levels.mpr fun s mem => ?_
    obtain ⟨t, fits, -⟩ :=
      Program.statement_of_isProgram ((p.ofText_toText_eq_ok_iff q).mp decoded) mem
    exact fits
  refine ⟨⟨shallow, ?_⟩, ?_, ?_⟩
  · intro nesting
    refine (p.ofText_toText_eq_ok_iff p).mpr (Program.isProgram_toJson fun s mem => ?_)
    exact ⟨levels.mp nesting s mem, s.isStmt_toJson IsBlank⟩
  · intro deep
    cases decoded : Program.ofText p.toText with
    | error e => exact ⟨e, rfl⟩
    | ok q => exact absurd (shallow decoded) (Nat.not_le.mpr deep)
  · refine (Program.ofValue_eq_ok_iff distinct p).mpr (Program.isProgram_toJson fun s _ => ?_)
    exact s.isStmt_toJson IsBlank

end Scopewise
