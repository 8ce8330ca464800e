/-
Reports free of given kinds of diagnostic.

`Diagnostics.FreeOf kinds ds` says that no diagnostic of `ds` is of one of the
`kinds`, and `Diagnostics.ofKinds kinds ds` are those that are. For each part of
a check that can report something the lemmas here give the condition under which
it does not, for any list of kinds that counts that report.
-/

import Scopewise.Proofs.FunctionTable

namespace Scopewise

namespace Diagnostics

/-- No diagnostic of the list is of one of the kinds. -/
def FreeOf (kinds : List DiagnosticKind) (ds : List Diagnostic) : Prop :=
  ∀ d ∈ ds, d.kind ∉ kinds

instance (kinds : List DiagnosticKind) (ds : List Diagnostic) : Decidable (FreeOf kinds ds) :=
  inferInstanceAs (Decidable (∀ d ∈ ds, d.kind ∉ kinds))

variable {kinds : List DiagnosticKind}

@[simp] theorem freeOf_nil : FreeOf kinds [] := nofun

@[simp] theorem freeOf_singleton {d : Diagnostic} : FreeOf kinds [d] ↔ d.kind ∉ kinds := by
  simp [FreeOf]

@[simp] theorem freeOf_append {ds es : List Diagnostic} :
    FreeOf kinds (ds ++ es) ↔ FreeOf kinds ds ∧ FreeOf kinds es := by
  simp only [FreeOf, List.mem_append]
  constructor
  · intro free
    exact ⟨fun d h => free d (.inl h), fun d h => free d (.inr h)⟩
  · rintro ⟨left, right⟩ d (h | h)
    · exact left d h
    · exact right d h

theorem not_freeOf_iff {ds : List Diagnostic} :
    ¬ FreeOf kinds ds ↔ ∃ d ∈ ds, d.kind ∈ kinds := by
  simp [FreeOf]

theorem freeOf_append_kinds {kinds' : List DiagnosticKind} {ds : List Diagnostic} :
    FreeOf (kinds ++ kinds') ds ↔ FreeOf kinds ds ∧ FreeOf kinds' ds := by
  simp only [FreeOf, List.mem_append, not_or]
  constructor
  · intro free
    exact ⟨fun d h => (free d h).1, fun d h => (free d h).2⟩
  · rintro ⟨left, right⟩ d h
    exact ⟨left d h, right d h⟩

/-- The diagnostics of one of the kinds, in report order. -/
def ofKinds (kinds : List DiagnosticKind) (ds : List Diagnostic) : List Diagnostic :=
  ds.filter fun d => d.kind ∈ kinds

@[simp] theorem ofKinds_nil : ofKinds kinds [] = [] := rfl

@[simp] theorem ofKinds_append (ds es : List Diagnostic) :
    ofKinds kinds (ds ++ es) = ofKinds kinds ds ++ ofKinds kinds es :=
  List.filter_append ..

theorem ofKinds_eq_nil {ds : List Diagnostic} (free : FreeOf kinds ds) : ofKinds kinds ds = [] := by
  rw [ofKinds, List.filter_eq_nil_iff]
  intro d mem
  simpa using free d mem

/-- Errors are the reports of five kinds. -/
theorem hasErrors_eq_false_iff {ds : List Diagnostic} :
    hasErrors ds = false ↔
      FreeOf [.structuralDuplicate, .unknownIdentifier, .typeMismatch] ds ∧
        FreeOf [.missingReturn] ds ∧ FreeOf [.arithmeticFault] ds := by
  rw [← freeOf_append_kinds, ← freeOf_append_kinds]
  have isError : ∀ d : Diagnostic, d.isError = false ↔
      d.kind ∉ [.structuralDuplicate, .unknownIdentifier, .typeMismatch] ++
        ([.missingReturn] ++ [.arithmeticFault]) := by
    intro d
    cases kind : d.kind <;> simp [Diagnostic.isError, Diagnostic.severity, kind,
      DiagnosticKind.severity]
  simp only [hasErrors, FreeOf, List.any_eq_false, Bool.not_eq_true, isError]

end Diagnostics

open Diagnostics

variable {kinds : List DiagnosticKind}

/-! ### Kinds of findings -/

namespace Finding

@[simp] theorem duplicateParam_kind (p : Param) (s : Symbol) :
    (duplicateParam p s).kind = .structuralDuplicate := rfl

@[simp] theorem duplicateVar_kind (v : VarDecl) (s : Symbol) :
    (duplicateVar v s).kind = .structuralDuplicate := rfl

@[simp] theorem notDeclared_kind (name : String) (span : Span) :
    (notDeclared name span).kind = .unknownIdentifier := rfl

@[simp] theorem usedUninitialized_kind (name : String) (span : Span) :
    (usedUninitialized name span).kind = .uninitializedUse := rfl

@[simp] theorem declaredUninitialized_kind (v : VarDecl) :
    (declaredUninitialized v).kind = .uninitializedDeclaration := rfl

@[simp] theorem cannotStore_kind (source : Ty) (name : String) (target : Ty) (span : Span) :
    (cannotStore source name target span).kind = .typeMismatch := rfl

@[simp] theorem badOperands_kind (e : Ty.OperandError) (span : Span) :
    (badOperands e span).kind = .typeMismatch := rfl

@[simp] theorem badArithmetic_kind (e : Constant.FoldError) (span : Span) :
    (badArithmetic e span).kind = .arithmeticFault := rfl

@[simp] theorem missingReturn_kind (f : FunctionDef) :
    (missingReturn f).kind = .missingReturn := rfl

end Finding

/-! ### When nothing is reported -/

/-- An operation is typed and not reported if both operands are integers.
Otherwise it gets the type `error` and one report, at its place. -/
theorem binaryType_cases (left right : Ty) (span : Span) :
    (left = .int ∧ right = .int ∧ binaryType left right span = (.int, [])) ∨
      (¬ (left = .int ∧ right = .int) ∧
        ∃ e, binaryType left right span = (.error, [Finding.badOperands e span])) := by
  unfold binaryType
  cases typed : Ty.binary left right with
  | ok type =>
      obtain ⟨leftInt, rightInt, rfl⟩ := Ty.binary_eq_ok_iff.mp typed
      exact .inl ⟨leftInt, rightInt, rfl⟩
  | error e =>
      refine .inr ⟨?_, e, rfl⟩
      rintro ⟨rfl, rfl⟩
      cases typed

/-- An operation is typed without a report exactly on two integers. -/
theorem freeOf_binaryType (counted : .typeMismatch ∈ kinds) {left right : Ty} {span : Span} :
    FreeOf kinds (binaryType left right span).2 ↔ left = .int ∧ right = .int := by
  rcases binaryType_cases left right span with ⟨leftInt, rightInt, typed⟩ | ⟨rejected, e, typed⟩
  · rw [typed]
    simp [leftInt, rightInt]
  · simp [typed, counted, rejected]

/-- A store is accepted without a report exactly between equal types that are
no errors. -/
theorem freeOf_checkStore (counted : .typeMismatch ∈ kinds) {target source : Ty} {name : String}
    {span : Span} :
    FreeOf kinds (checkStore target source name span) ↔ target = source ∧ target ≠ .error := by
  rw [← Ty.compatible_iff, checkStore]
  split <;> simp_all

/-- A written type is never the type `error`. -/
theorem Ty.ofTypeName_ne_error (type : TypeName) : Ty.ofTypeName type ≠ .error := by
  cases type <;> simp [ofTypeName]

theorem Ty.ofTypeName_injective {a b : TypeName} (h : Ty.ofTypeName a = Ty.ofTypeName b) :
    a = b := by
  cases a <;> cases b <;> simp_all [ofTypeName]

/-- Storing between written types is accepted exactly if they are the same. -/
theorem freeOf_checkStore_ofTypeName (counted : .typeMismatch ∈ kinds) {target source : TypeName}
    {name : String} {span : Span} :
    FreeOf kinds (checkStore (.ofTypeName target) (.ofTypeName source) name span) ↔
      source = target := by
  rw [freeOf_checkStore counted]
  constructor
  · rintro ⟨same, -⟩
    exact (Ty.ofTypeName_injective same).symm
  · rintro rfl
    exact ⟨rfl, Ty.ofTypeName_ne_error _⟩

theorem freeOf_checkResult (uncounted : .missingReturn ∉ kinds) (f : FunctionDef) :
    FreeOf kinds (checkResult f) := by
  unfold checkResult
  split
  · simpa using uncounted
  · exact freeOf_nil

theorem checkStore_freeOf (uncounted : .typeMismatch ∉ kinds) (target source : Ty) (name : String)
    (span : Span) : FreeOf kinds (checkStore target source name span) := by
  unfold checkStore
  split
  · exact freeOf_nil
  · simpa using uncounted

/-! ### What expressions report -/

theorem checkName_freeOf (unknown : .unknownIdentifier ∉ kinds) (unset : .uninitializedUse ∉ kinds)
    (t : Table) (name : String) (span : Span) : FreeOf kinds (checkName t name span).2 := by
  unfold checkName
  split
  · simpa using unknown
  · split
    · exact freeOf_nil
    · simpa using unset

theorem binaryType_freeOf (uncounted : .typeMismatch ∉ kinds) (left right : Ty) (span : Span) :
    FreeOf kinds (binaryType left right span).2 := by
  unfold binaryType
  split
  · exact freeOf_nil
  · simpa using uncounted

theorem binaryValue_freeOf (uncounted : .arithmeticFault ∉ kinds) (left : Option Constant)
    (op : Operator) (right : Option Constant) (span : Span) :
    FreeOf kinds (binaryValue left op right span).2 := by
  unfold binaryValue
  split
  · exact freeOf_nil
  · simpa using uncounted

/-- The kinds of diagnostic that an expression, or storing its value, can give
rise to. -/
def Expr.reportedKinds : List DiagnosticKind :=
  [.unknownIdentifier, .uninitializedUse, .typeMismatch, .arithmeticFault]

theorem Expr.freeOf_check (uncounted : ∀ k ∈ reportedKinds, k ∉ kinds) (t : Table) (e : Expr) :
    FreeOf kinds (e.check t).2 := by
  simp only [reportedKinds, List.forall_mem_cons] at uncounted
  obtain ⟨unknown, unset, mismatch, fault, -⟩ := uncounted
  induction e with
  | number value span => exact freeOf_nil
  | boolean value span => exact freeOf_nil
  | var name span => exact checkName_freeOf unknown unset t name span
  | binary left op right span ihLeft ihRight =>
      simp only [Expr.check, freeOf_append]
      exact ⟨⟨⟨ihLeft, ihRight⟩, binaryType_freeOf mismatch _ _ _⟩,
        binaryValue_freeOf fault _ _ _ _⟩

theorem Expr.freeOf_store (uncounted : ∀ k ∈ reportedKinds, k ∉ kinds) (t : Table) (e : Expr)
    (target source : Ty) (name : String) (span : Span) :
    FreeOf kinds ((e.check t).2 ++ checkStore target source name span) :=
  freeOf_append.mpr ⟨e.freeOf_check uncounted t,
    checkStore_freeOf (uncounted .typeMismatch (by simp [reportedKinds])) _ _ _ _⟩

/-! ### The missing return

Nothing but the end of a function reports a missing return. -/

theorem Pass.freeOf_each {α : Type} {step : Table → α → Pass}
    (free : ∀ t a, FreeOf kinds (step t a).diagnostics) (t : Table) (xs : List α) :
    FreeOf kinds (Pass.each step t xs).diagnostics := by
  induction xs generalizing t with
  | nil => exact freeOf_nil
  | cons a rest ih => exact freeOf_append.mpr ⟨free t a, ih _⟩

theorem checkParam_freeOf_missingReturn (t : Table) (p : Param) :
    FreeOf [.missingReturn] (checkParam t p).diagnostics := by
  unfold checkParam
  split <;> simp

theorem checkVar_freeOf_missingReturn (type : Ty) (t : Table) (v : VarDecl) :
    FreeOf [.missingReturn] (checkVar type t v).diagnostics := by
  unfold checkVar
  split
  · simp
  · split
    next init _ => exact init.freeOf_store (by decide) t _ _ _ _
    next => simp

theorem checkStmt_freeOf_missingReturn (function : String) (t : Table) (s : Stmt) :
    FreeOf [.missingReturn] (checkStmt function t s).diagnostics := by
  cases s with
  | declaration type vars span => exact Pass.freeOf_each (checkVar_freeOf_missingReturn _) t vars
  | assignment target value span =>
      simp only [checkStmt, checkAssignment]
      split
      · simp
      · exact value.freeOf_store (by decide) t _ _ _ _
  | ret value span =>
      cases value with
      | none => exact freeOf_nil
      | some value => exact value.freeOf_check (by decide) t
  | expr e span => exact e.freeOf_check (by decide) t

theorem hasReturn_iff {f : FunctionDef} :
    f.hasReturn = true ↔ ∃ value span, Stmt.ret value span ∈ f.body := by
  rw [FunctionDef.hasReturn, List.any_eq_true]
  constructor
  · rintro ⟨s, mem, isReturn⟩
    cases s with
    | ret value span => exact ⟨value, span, mem⟩
    | declaration | assignment | expr => cases isReturn
  · rintro ⟨value, span, mem⟩
    exact ⟨_, mem, rfl⟩

theorem FunctionDef.pass_freeOf_missingReturn (f : FunctionDef) :
    FreeOf [.missingReturn] f.pass.diagnostics :=
  freeOf_append.mpr ⟨Pass.freeOf_each checkParam_freeOf_missingReturn _ _,
    Pass.freeOf_each (checkStmt_freeOf_missingReturn f.name) _ _⟩

/-- A missing return is reported exactly about a function that promises a result
and never returns. -/
theorem freeOf_missingReturn_iff {p : Program} :
    FreeOf [.missingReturn] (analyze p).diagnostics ↔
      p.function.returnType = .void ∨ p.function.hasReturn = true := by
  rw [analyze_diagnostics, freeOf_append, and_iff_right p.function.pass_freeOf_missingReturn,
    checkResult]
  split
  next missing => simpa using missing
  next present => simpa [Classical.or_iff_not_imp_left] using present

end Scopewise
