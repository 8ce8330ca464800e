/-
A program and its image under a relabelling, checked side by side.

A `Relabelling` puts other names, positions, literals and operators into a tree
and keeps its shape and its types. A `Comparison` is a relabelling together with
what is expected to correspond: the names about which the two checks agree, and
the kinds of diagnostic that are not compared.

Two symbols correspond (`Comparison.Symbols`) if they differ by the relabelling
only; values are expected to be equal where literals and operators are kept. Two
findings correspond (`Comparison.Finds`) if they are the same finding about a
piece of the program and about its image. Each piece of a check keeps these
correspondences, and so does the whole (`Comparison.check_program`). Every
result about two related programs starts from here: it chooses a comparison and
reads off what the correspondences say.
-/

import Scopewise.Proofs.Footprint
import Scopewise.Proofs.Reports
import Mathlib.Data.List.Forall2
import Mathlib.Data.Set.Function

namespace Scopewise

open Table Diagnostics

/-! ### Relabelled trees -/

/-- What becomes of the names, positions, literals and operators of a tree. -/
structure Relabelling where
  name : String → String := id
  position : Position → Position := id
  number : Int64 → Int64 := id
  boolean : Bool → Bool := id
  operator : Operator → Operator := id

namespace Relabelling

/-- A span is moved at both of its ends. -/
def span (f : Relabelling) (s : Span) : Span := ⟨f.position s.start, f.position s.stop⟩

/-- Literals and operators stay as they are. -/
structure KeepsConstants (f : Relabelling) : Prop where
  number : ∀ value, f.number value = value
  boolean : ∀ value, f.boolean value = value
  operator : ∀ op, f.operator op = op

theorem keepsConstants (name : String → String) (position : Position → Position) :
    KeepsConstants { name, position } :=
  ⟨fun _ => rfl, fun _ => rfl, fun _ => rfl⟩

end Relabelling

section Map

variable (f : Relabelling)

def Expr.map : Expr → Expr
  | .binary left op right span => .binary left.map (f.operator op) right.map (f.span span)
  | .number value span => .number (f.number value) (f.span span)
  | .boolean value span => .boolean (f.boolean value) (f.span span)
  | .var name span => .var (f.name name) (f.span span)

def VarDecl.map (v : VarDecl) : VarDecl where
  name := f.name v.name
  init := v.init.map (Expr.map f)
  span := f.span v.span

def Stmt.map : Stmt → Stmt
  | .declaration type vars span => .declaration type (vars.map (VarDecl.map f)) (f.span span)
  | .assignment target value span => .assignment (f.name target) (value.map f) (f.span span)
  | .ret value span => .ret (value.map (Expr.map f)) (f.span span)
  | .expr e span => .expr (e.map f) (f.span span)

def Param.map (p : Param) : Param where
  type := p.type
  name := f.name p.name
  span := f.span p.span

/-- The name of the function is no name of a variable, and is kept. -/
def FunctionDef.map (fn : FunctionDef) : FunctionDef where
  returnType := fn.returnType
  name := fn.name
  params := fn.params.map (Param.map f)
  body := fn.body.map (Stmt.map f)
  span := f.span fn.span

/-- The image of a program. -/
def Program.map (p : Program) : Program where
  function := p.function.map f
  span := f.span p.span

/-- The symbol of the image of a declaration. Its type, its value and whether it
is initialized are kept. -/
def Symbol.map (s : Symbol) : Symbol :=
  { s with name := f.name s.name, declaredAt := f.position s.declaredAt }

theorem Expr.span_map (e : Expr) : (e.map f).span = f.span e.span := by
  cases e <;> rfl

theorem FunctionDef.hasReturn_map (fn : FunctionDef) : (fn.map f).hasReturn = fn.hasReturn := by
  have kind (s : Stmt) : (s.map f).isReturn = s.isReturn := by cases s <;> rfl
  simp [hasReturn, map, Function.comp_def, kind]

/-- A function writes the images of the names that it wrote. -/
theorem FunctionDef.writes_map (fn : FunctionDef) : (fn.map f).writes = fn.writes.map f.name := by
  have written (s : Stmt) : (s.map f).writes = s.writes.map f.name := by
    cases s <;> simp [Stmt.map, Stmt.writes, VarDecl.map, Function.comp_def]
  simp [writes, map, Param.map, List.map_flatMap, List.flatMap_map, Function.comp_def, written]

end Map

/-- The relabelling that changes nothing. -/
theorem Expr.map_id (e : Expr) : e.map {} = e := by
  induction e with
  | binary left op right span ihLeft ihRight =>
      rw [Expr.map, ihLeft, ihRight]
      rfl
  | number value span => rfl
  | boolean value span => rfl
  | var name span => rfl

theorem Expr.map_id_eq : Expr.map {} = id := funext Expr.map_id

theorem Stmt.map_id (s : Stmt) : s.map {} = s := by
  cases s with
  | declaration type vars span =>
      have same (v : VarDecl) : v.map {} = v := by
        rw [VarDecl.map, Expr.map_id_eq, Option.map_id_fun]
        rfl
      have all : vars.map (VarDecl.map {}) = vars := by
        rw [show VarDecl.map {} = id from funext same, List.map_id]
      rw [Stmt.map, all]
      rfl
  | assignment target value span =>
      rw [Stmt.map, Expr.map_id]
      rfl
  | ret value span =>
      rw [Stmt.map, Expr.map_id_eq, Option.map_id_fun]
      rfl
  | expr e span =>
      rw [Stmt.map, Expr.map_id]
      rfl

/-! ### What is left out of a report -/

/-- A report without the diagnostics of the given kinds. -/
def Diagnostics.without (kinds : List DiagnosticKind) (ds : List Diagnostic) : List Diagnostic :=
  ds.filter fun d => d.kind ∉ kinds

section Without

variable {kinds : List DiagnosticKind}

theorem Diagnostics.without_append (ds es : List Diagnostic) :
    without kinds (ds ++ es) = without kinds ds ++ without kinds es :=
  List.filter_append ..

@[simp] theorem Diagnostics.without_nothing (ds : List Diagnostic) : without [] ds = ds := by
  simp [without]

theorem Diagnostics.without_eq_self {ds : List Diagnostic} (free : FreeOf kinds ds) :
    without kinds ds = ds := by
  rw [without, List.filter_eq_self]
  intro d mem
  simpa using free d mem

/-- Values are the concern of arithmetic faults alone. -/
theorem without_binaryValue (ignored : .arithmeticFault ∈ kinds) (left : Option Constant)
    (op : Operator) (right : Option Constant) (span : Span) :
    without kinds (binaryValue left op right span).2 = [] := by
  unfold binaryValue
  split
  · rfl
  · simp [without, ignored]

end Without

/-! ### Comparisons -/

/-- A relabelling, and what of the two checks is compared under it. -/
structure Comparison extends Relabelling where
  /-- The names about which the two checks agree. -/
  names : Set String
  /-- The kinds of diagnostic that are not compared. -/
  ignored : List DiagnosticKind
  name_injOn : Set.InjOn name names
  /-- Constants are kept, or what is reported about them is not compared. -/
  constants : toRelabelling.KeepsConstants ∨ .arithmeticFault ∈ ignored

namespace Comparison

variable (K : Comparison)

/-- A symbol and its image. -/
structure Symbols (s s' : Symbol) : Prop where
  name : s'.name = K.name s.name
  type : s'.type = s.type
  initialized : s'.initialized = s.initialized
  declaredAt : s'.declaredAt = K.position s.declaredAt
  value : K.KeepsConstants → s'.value = s.value

/-- A finding about a piece of a program, and the same finding about the image
of that piece. -/
inductive Finds : Diagnostic → Diagnostic → Prop where
  | duplicateParam {p : Param} {existing existing' : Symbol} : K.Symbols existing existing' →
      Finds (Finding.duplicateParam p existing)
        (Finding.duplicateParam (p.map K.toRelabelling) existing')
  | duplicateVar {v : VarDecl} {existing existing' : Symbol} : K.Symbols existing existing' →
      Finds (Finding.duplicateVar v existing)
        (Finding.duplicateVar (v.map K.toRelabelling) existing')
  | notDeclared {name : String} {span : Span} :
      Finds (Finding.notDeclared name span) (Finding.notDeclared (K.name name) (K.span span))
  | usedUninitialized {name : String} {span : Span} :
      Finds (Finding.usedUninitialized name span)
        (Finding.usedUninitialized (K.name name) (K.span span))
  | declaredUninitialized {v : VarDecl} :
      Finds (Finding.declaredUninitialized v)
        (Finding.declaredUninitialized (v.map K.toRelabelling))
  | cannotStore {source : Ty} {name : String} {target : Ty} {span : Span} :
      Finds (Finding.cannotStore source name target span)
        (Finding.cannotStore source (K.name name) target (K.span span))
  | badOperands {e : Ty.OperandError} {span : Span} :
      Finds (Finding.badOperands e span) (Finding.badOperands e (K.span span))
  | badArithmetic {e : Constant.FoldError} {span : Span} :
      Finds (Finding.badArithmetic e span) (Finding.badArithmetic e (K.span span))
  | missingReturn {fn : FunctionDef} :
      Finds (Finding.missingReturn fn) (Finding.missingReturn (fn.map K.toRelabelling))

/-- Two reports find the same, one after the other, apart from what is
ignored. -/
def Reports (ds ds' : List Diagnostic) : Prop :=
  List.Forall₂ K.Finds (without K.ignored ds) (without K.ignored ds')

/-- Under the names of the comparison, two maps hold corresponding symbols. -/
structure Agree (m m' : NameMap Symbol) : Prop where
  found : ∀ {x s}, x ∈ K.names → m.get? x = some s →
    ∃ s', m'.get? (K.name x) = some s' ∧ K.Symbols s s'
  absent : ∀ {x}, x ∈ K.names → m.get? x = none → m'.get? (K.name x) = none

/-- What two checks of an expression have found out corresponds. -/
structure Outcomes (checked checked' : Outcome × List Diagnostic) : Prop where
  type : checked'.1.type = checked.1.type
  value : K.KeepsConstants → checked'.1.value = checked.1.value
  reports : K.Reports checked.2 checked'.2

/-- Two passes leave tables of the function with corresponding symbols, and
corresponding reports. -/
structure Passes (label : String) (pass pass' : Pass) : Prop where
  tables : ∃ m m', pass.table = ofFunction label m ∧ pass'.table = ofFunction label m' ∧
    K.Agree m m'
  reports : K.Reports pass.diagnostics pass'.diagnostics

variable {K : Comparison}

/-! #### Reports -/

theorem Finds.kind {d d' : Diagnostic} (finds : K.Finds d d') : d'.kind = d.kind := by
  cases finds <;> rfl

/-- Where neither names nor positions change, findings correspond only to
themselves. -/
theorem Finds.eq (names : ∀ x, K.name x = x) (positions : ∀ p, K.position p = p)
    {d d' : Diagnostic} (finds : K.Finds d d') : d' = d := by
  have spans (s : Span) : K.span s = s := by
    rw [Relabelling.span, positions, positions]
  cases finds with
  | duplicateParam existing =>
      simp [Finding.duplicateParam, Finding.previously, Param.map, names, spans,
        existing.declaredAt, positions]
  | duplicateVar existing =>
      simp [Finding.duplicateVar, Finding.previously, VarDecl.map, names, spans,
        existing.declaredAt, positions]
  | notDeclared => rw [names, spans]
  | usedUninitialized => rw [names, spans]
  | declaredUninitialized => simp [Finding.declaredUninitialized, VarDecl.map, names, spans]
  | cannotStore => rw [names, spans]
  | badOperands => rw [spans]
  | badArithmetic => rw [spans]
  | missingReturn => simp [Finding.missingReturn, FunctionDef.map, spans]

namespace Reports

theorem nil : K.Reports [] [] := List.Forall₂.nil

theorem single {d d' : Diagnostic} (finds : K.Finds d d') : K.Reports [d] [d'] := by
  unfold Reports without
  by_cases ignored : d.kind ∈ K.ignored
  · simp [finds.kind, ignored]
  · simpa [finds.kind, ignored] using finds

theorem append {ds ds' es es' : List Diagnostic} (first : K.Reports ds ds')
    (second : K.Reports es es') : K.Reports (ds ++ es) (ds' ++ es') := by
  rw [Reports, without_append, without_append]
  exact List.rel_append first second

theorem eq (names : ∀ x, K.name x = x) (positions : ∀ p, K.position p = p)
    {ds ds' : List Diagnostic} (reports : K.Reports ds ds') :
    without K.ignored ds' = without K.ignored ds := by
  have same : List.Forall₂ Eq (without K.ignored ds) (without K.ignored ds') :=
    List.Forall₂.imp (fun _ _ finds => (finds.eq names positions).symm) reports
  rw [List.forall₂_eq_eq_eq] at same
  exact same.symm

theorem of_binaryType (left right : Ty) (span : Span) :
    K.Reports (binaryType left right span).2 (binaryType left right (K.span span)).2 := by
  unfold binaryType
  cases Ty.binary left right with
  | ok type => exact nil
  | error e => exact single .badOperands

/-- Values that are kept are reported on alike; other values are not
compared. -/
theorem of_binaryValue {left left' right right' : Option Constant}
    (sameLeft : K.KeepsConstants → left' = left) (sameRight : K.KeepsConstants → right' = right)
    (op : Operator) (span : Span) :
    K.Reports (binaryValue left op right span).2
      (binaryValue left' (K.operator op) right' (K.span span)).2 := by
  rcases K.constants with keeps | ignored
  · rw [sameLeft keeps, sameRight keeps, keeps.operator]
    unfold binaryValue
    cases Constant.fold left op right with
    | ok value => exact nil
    | error e => exact single .badArithmetic
  · rw [Reports, without_binaryValue ignored, without_binaryValue ignored]
    exact .nil

theorem of_checkStore (target source : Ty) (name : String) (span : Span) :
    K.Reports (checkStore target source name span)
      (checkStore target source (K.name name) (K.span span)) := by
  unfold checkStore
  split
  · exact nil
  · exact single .cannotStore

theorem of_checkResult (fn : FunctionDef) :
    K.Reports (checkResult fn) (checkResult (fn.map K.toRelabelling)) := by
  unfold checkResult
  rw [FunctionDef.hasReturn_map]
  by_cases missing : fn.returnType ≠ .void ∧ !fn.hasReturn
  · rw [if_pos missing, if_pos (show (fn.map K.toRelabelling).returnType ≠ .void ∧ _ from missing)]
    exact single .missingReturn
  · rw [if_neg missing,
      if_neg (show ¬ ((fn.map K.toRelabelling).returnType ≠ .void ∧ _) from missing)]
    exact nil

end Reports

/-! #### Symbols -/

theorem name_eq_iff {x y : String} (hx : x ∈ K.names) (hy : y ∈ K.names) :
    K.name x = K.name y ↔ x = y :=
  K.name_injOn.eq_iff hx hy

/-- Where constants are kept, a symbol corresponds to its image only. -/
theorem Symbols.eq_map (keeps : K.KeepsConstants) {s s' : Symbol} (same : K.Symbols s s') :
    s' = s.map K.toRelabelling := by
  obtain ⟨name, type, initialized, place, value⟩ := same
  cases s
  cases s'
  rw [Symbol.map, Symbol.mk.injEq]
  exact ⟨name, type, value keeps, initialized, place⟩

namespace Agree

variable {m m' : NameMap Symbol}

theorem get?_eq_map (keeps : K.KeepsConstants) (agree : K.Agree m m') {x : String}
    (covered : x ∈ K.names) :
    m'.get? (K.name x) = (m.get? x).map (Symbol.map K.toRelabelling) := by
  cases found : m.get? x with
  | none => exact agree.absent covered found
  | some s =>
      obtain ⟨s', found', same⟩ := agree.found covered found
      rw [found', same.eq_map keeps, Option.map_some]

theorem empty : K.Agree .empty .empty where
  found := nofun
  absent _ _ := rfl

/-- A new symbol and its image are added. -/
theorem insert (agree : K.Agree m m') {name : String} (named : name ∈ K.names) {s s' : Symbol}
    (same : K.Symbols s s') : K.Agree (m.insert name s) (m'.insert (K.name name) s') where
  found := by
    intro x t covered found
    rw [NameMap.get?_insert] at found
    rw [NameMap.get?_insert]
    by_cases this : name = x
    · rw [if_pos this] at found
      cases found
      exact ⟨s', if_pos ((name_eq_iff named covered).mpr this), same⟩
    · rw [if_neg this] at found
      rw [if_neg (mt (name_eq_iff named covered).mp this)]
      exact agree.found covered found
  absent := by
    intro x covered absent
    rw [NameMap.get?_insert] at absent
    rw [NameMap.get?_insert]
    by_cases this : name = x
    · rw [if_pos this] at absent
      cases absent
    · rw [if_neg this] at absent
      rw [if_neg (mt (name_eq_iff named covered).mp this)]
      exact agree.absent covered absent

/-- A symbol and its image are changed alike. -/
theorem modify (agree : K.Agree m m') {name : String} (named : name ∈ K.names)
    {change change' : Symbol → Symbol}
    (same : ∀ s s', K.Symbols s s' → K.Symbols (change s) (change' s')) :
    K.Agree (m.modify name change) (m'.modify (K.name name) change') where
  found := by
    intro x t covered found
    rw [NameMap.get?_modify] at found
    rw [NameMap.get?_modify]
    by_cases this : name = x
    · rw [if_pos this] at found
      obtain ⟨s, held, rfl⟩ := Option.map_eq_some_iff.mp found
      obtain ⟨s', held', symbols⟩ := agree.found covered held
      rw [if_pos ((name_eq_iff named covered).mpr this), held']
      exact ⟨_, rfl, same s s' symbols⟩
    · rw [if_neg this] at found
      rw [if_neg (mt (name_eq_iff named covered).mp this)]
      exact agree.found covered found
  absent := by
    intro x covered absent
    rw [NameMap.get?_modify] at absent
    rw [NameMap.get?_modify]
    have before : m.get? x = none := by
      by_cases this : name = x
      · rw [if_pos this] at absent
        exact Option.map_eq_none_iff.mp absent
      · rw [if_neg this] at absent
        exact absent
    rw [agree.absent covered before]
    simp

end Agree

/-! #### Expressions -/

section Expressions

variable {label : String} {m m' : NameMap Symbol}

theorem check_name (agree : K.Agree m m') {name : String} (named : name ∈ K.names)
    (span : Span) :
    K.Outcomes (checkName (ofFunction label m) name span)
      (checkName (ofFunction label m') (K.name name) (K.span span)) := by
  unfold checkName
  rw [lookup?_ofFunction, lookup?_ofFunction]
  cases found : m.get? name with
  | none =>
      rw [agree.absent named found]
      exact ⟨rfl, fun _ => rfl, .single .notDeclared⟩
  | some symbol =>
      obtain ⟨symbol', found', same⟩ := agree.found named found
      rw [found']
      refine ⟨same.type, same.value, ?_⟩
      simp only [same.initialized]
      split
      · exact .nil
      · exact .single .usedUninitialized

/-- The type and the value of an expression, and what is reported about it,
depend on the symbols of its own variables only. -/
theorem check_expr (agree : K.Agree m m') {e : Expr} (covered : ∀ x ∈ e.names, x ∈ K.names) :
    K.Outcomes (e.check (ofFunction label m))
      ((e.map K.toRelabelling).check (ofFunction label m')) := by
  induction e with
  | number value span =>
      refine ⟨rfl, fun keeps => ?_, .nil⟩
      simp [Expr.map, Expr.check, keeps.number]
  | boolean value span =>
      refine ⟨rfl, fun keeps => ?_, .nil⟩
      simp [Expr.map, Expr.check, keeps.boolean]
  | var name span => exact check_name agree (covered name (by simp [Expr.names])) span
  | binary left op right span ihLeft ihRight =>
      obtain ⟨leftType, leftValue, leftReports⟩ :=
        ihLeft fun x mem => covered x (by simp [Expr.names, mem])
      obtain ⟨rightType, rightValue, rightReports⟩ :=
        ihRight fun x mem => covered x (by simp [Expr.names, mem])
      simp only [Expr.map, Expr.check]
      refine ⟨?_, fun keeps => ?_, ?_⟩
      · simp only [leftType, rightType, binaryType]
        split <;> rfl
      · simp only [leftValue keeps, rightValue keeps, keeps.operator, binaryValue]
        split <;> rfl
      · rw [leftType, rightType]
        exact ((leftReports.append rightReports).append (.of_binaryType _ _ span)).append
          (.of_binaryValue leftValue rightValue op span)

/-- An expression that is stored in a variable is reported on alike. -/
theorem reports_store (agree : K.Agree m m') {e : Expr} (covered : ∀ x ∈ e.names, x ∈ K.names)
    (target : Ty) (name : String) :
    K.Reports
      ((e.check (ofFunction label m)).2 ++
        checkStore target (e.check (ofFunction label m)).1.type name e.span)
      (((e.map K.toRelabelling).check (ofFunction label m')).2 ++
        checkStore target ((e.map K.toRelabelling).check (ofFunction label m')).1.type
          (K.name name) (e.map K.toRelabelling).span) := by
  have outcomes : K.Outcomes (e.check (ofFunction label m))
      ((e.map K.toRelabelling).check (ofFunction label m')) := check_expr agree covered
  rw [outcomes.type, Expr.span_map]
  exact outcomes.reports.append (.of_checkStore _ _ _ _)

end Expressions

/-! #### Passes -/

namespace Passes

variable {label : String}

theorem of_agree {pass pass' : Pass} {m m' : NameMap Symbol}
    (table : pass.table = ofFunction label m) (table' : pass'.table = ofFunction label m')
    (agree : K.Agree m m') (reports : K.Reports pass.diagnostics pass'.diagnostics) :
    K.Passes label pass pass' :=
  ⟨⟨m, m', table, table', agree⟩, reports⟩

theorem andThen {pass pass' : Pass} {next next' : Table → Pass} (first : K.Passes label pass pass')
    (second : ∀ {m m'}, K.Agree m m' →
      K.Passes label (next (ofFunction label m)) (next' (ofFunction label m'))) :
    K.Passes label (pass.andThen next) (pass'.andThen next') := by
  obtain ⟨⟨m, m', table, table', agree⟩, reports⟩ := first
  obtain ⟨tables, reports'⟩ := second agree
  constructor
  · rw [Pass.andThen_table, Pass.andThen_table, table, table']
    exact tables
  · rw [Pass.andThen_diagnostics, Pass.andThen_diagnostics, table, table']
    exact reports.append reports'

/-- Steps that correspond one by one correspond in a row. -/
theorem each {α : Type} {step step' : Table → α → Pass} {image : α → α} {xs : List α}
    (steps : ∀ {m m'}, K.Agree m m' → ∀ a ∈ xs,
      K.Passes label (step (ofFunction label m) a) (step' (ofFunction label m') (image a)))
    {m m' : NameMap Symbol} (agree : K.Agree m m') :
    K.Passes label (Pass.each step (ofFunction label m) xs)
      (Pass.each step' (ofFunction label m') (xs.map image)) := by
  induction xs generalizing m m' with
  | nil => exact of_agree rfl rfl agree .nil
  | cons a rest ih =>
      refine (steps agree a (by simp)).andThen ?_
      intro m m' agree
      exact ih (fun agree a mem => steps agree a (by simp [mem])) agree

end Passes

section Steps

variable {label : String} {m m' : NameMap Symbol}

theorem check_param (agree : K.Agree m m') {p : Param} (named : p.name ∈ K.names) :
    K.Passes label (checkParam (ofFunction label m) p)
      (checkParam (ofFunction label m') (p.map K.toRelabelling)) := by
  cases found : m.get? p.name with
  | some existing =>
      obtain ⟨existing', found', same⟩ := agree.found named found
      rw [checkParam_duplicate found, checkParam_duplicate (p := p.map K.toRelabelling) found']
      exact .of_agree rfl rfl agree (.single (.duplicateParam same))
  | none =>
      have found' := agree.absent named found
      rw [checkParam_fresh found, checkParam_fresh (p := p.map K.toRelabelling) found']
      exact .of_agree rfl rfl (agree.insert named ⟨rfl, rfl, rfl, rfl, fun _ => rfl⟩) .nil

theorem check_var (agree : K.Agree m m') (type : Ty) {v : VarDecl} (named : v.name ∈ K.names)
    (covered : ∀ x ∈ Expr.optionalNames v.init, x ∈ K.names) :
    K.Passes label (checkVar type (ofFunction label m) v)
      (checkVar type (ofFunction label m') (v.map K.toRelabelling)) := by
  cases found : m.get? v.name with
  | some existing =>
      obtain ⟨existing', found', same⟩ := agree.found named found
      rw [checkVar_duplicate found, checkVar_duplicate (v := v.map K.toRelabelling) found']
      exact .of_agree rfl rfl agree (.single (.duplicateVar same))
  | none =>
      have found' := agree.absent named found
      cases initial : v.init with
      | none =>
          have initial' : (v.map K.toRelabelling).init = none := by
            rw [VarDecl.map, initial, Option.map_none]
          rw [checkVar_plain found initial,
            checkVar_plain (v := v.map K.toRelabelling) found' initial']
          exact .of_agree rfl rfl (agree.insert named ⟨rfl, rfl, rfl, rfl, fun _ => rfl⟩)
            (.single .declaredUninitialized)
      | some init =>
          have initial' : (v.map K.toRelabelling).init = some (init.map K.toRelabelling) := by
            rw [VarDecl.map, initial, Option.map_some]
          have covered : ∀ x ∈ init.names, x ∈ K.names := by
            simpa [Expr.optionalNames, initial] using covered
          rw [checkVar_initialized found initial rfl,
            checkVar_initialized (v := v.map K.toRelabelling) found' initial' rfl]
          refine .of_agree rfl rfl (agree.insert named ?_) (reports_store agree covered type v.name)
          exact ⟨rfl, rfl, rfl, rfl, (check_expr agree covered).value⟩

theorem check_assignment (agree : K.Agree m m') {target : String} (named : target ∈ K.names)
    {value : Expr} (covered : ∀ x ∈ value.names, x ∈ K.names) (span : Span) :
    K.Passes label (checkAssignment (ofFunction label m) target value span)
      (checkAssignment (ofFunction label m') (K.name target) (value.map K.toRelabelling)
        (K.span span)) := by
  cases found : m.get? target with
  | none =>
      rw [checkAssignment_unknown found, checkAssignment_unknown (agree.absent named found)]
      exact .of_agree rfl rfl agree (.single .notDeclared)
  | some symbol =>
      obtain ⟨symbol', found', same⟩ := agree.found named found
      rw [checkAssignment_declared found rfl, checkAssignment_declared found' rfl, same.type]
      refine .of_agree rfl rfl (agree.modify named ?_) (reports_store agree covered _ _)
      intro s s' symbols
      exact ⟨symbols.name, symbols.type, rfl, symbols.declaredAt, (check_expr agree covered).value⟩

/-- A statement and its image are checked alike, if the comparison covers the
names that the statement reads and writes. -/
theorem check_stmt (agree : K.Agree m m') (function : String) {s : Stmt}
    (reads : ∀ x ∈ s.reads, x ∈ K.names) (writes : ∀ x ∈ s.writes, x ∈ K.names) :
    K.Passes label (checkStmt function (ofFunction label m) s)
      (checkStmt function (ofFunction label m') (s.map K.toRelabelling)) := by
  cases s with
  | declaration type vars span =>
      refine .each ?_ agree
      intro m m' agree v mem
      refine check_var agree _ (writes _ (List.mem_map_of_mem mem)) ?_
      intro x read
      exact reads x (List.mem_flatMap.mpr ⟨v, mem, read⟩)
  | assignment target value span =>
      exact check_assignment agree (writes _ (List.mem_singleton_self _)) reads span
  | ret value span =>
      cases value with
      | none => exact .of_agree rfl rfl agree .nil
      | some value => exact .of_agree rfl rfl agree (check_expr agree reads).reports
  | expr e span => exact .of_agree rfl rfl agree (check_expr agree reads).reports

end Steps

/-- **A program and its image are checked alike**, if the comparison covers all
names. -/
theorem check_program (K : Comparison) (covered : ∀ x, x ∈ K.names) (p : Program) :
    ∃ m m', (analyze p).table = leftFunction (functionLabel p.function.name) m ∧
      (analyze (p.map K.toRelabelling)).table =
        leftFunction (functionLabel p.function.name) m' ∧
      K.Agree m m' ∧
      K.Reports (analyze p).diagnostics (analyze (p.map K.toRelabelling)).diagnostics := by
  have params : K.Passes (functionLabel p.function.name) p.function.paramsPass
      (p.map K.toRelabelling).function.paramsPass :=
    .each (fun agree p _ => check_param agree (covered p.name)) .empty
  have whole : K.Passes (functionLabel p.function.name) p.function.pass
      (p.map K.toRelabelling).function.pass := by
    refine params.andThen ?_
    intro m m' agree
    exact .each (fun agree s _ =>
      check_stmt agree p.function.name (fun x _ => covered x) fun x _ => covered x) agree
  obtain ⟨⟨m, m', table, table', agree⟩, reports⟩ := whole
  refine ⟨m, m', analyze_table table, analyze_table (p := p.map K.toRelabelling) table', agree, ?_⟩
  rw [analyze_diagnostics, analyze_diagnostics]
  exact reports.append (.of_checkResult p.function)

end Comparison

end Scopewise
