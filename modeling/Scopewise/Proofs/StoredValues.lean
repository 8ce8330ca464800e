/-
The values that a check stores.

A check computes types and values side by side, and goes on behind an error
with what it has: a truth value may end up in a variable of type `int`, and be
read from there. Every store of this kind is reported as a type mismatch. So
where none is reported all values are of the types of their variables
(`analyze_stores_typed`), and where in addition no variable is read before
something was stored in it, no value is ever lost (`analyze_stores_known`).

The two have one proof. A `ValueRule` says which values go with a type, and
asks for what the two ways of computing have in common: constants, defaults and
operations follow the rule. Then so does every variable in which something was
stored, as long as nothing of the kinds that the rule counts on is reported.
-/

import Scopewise.Proofs.Reports

namespace Scopewise

open Table Diagnostics

/-! ### Invariants of a check -/

/-- Unless it reports something of `kinds`, a pass leaves the table of the
function, with symbols of which `I` holds. -/
def Pass.Leaves (kinds : List DiagnosticKind) (label : String) (I : NameMap Symbol → Prop)
    (pass : Pass) : Prop :=
  FreeOf kinds pass.diagnostics → ∃ m, pass.table = ofFunction label m ∧ I m

namespace Pass.Leaves

variable {kinds : List DiagnosticKind} {label : String} {I : NameMap Symbol → Prop}

theorem andThen {pass : Pass} {next : Table → Pass} (first : pass.Leaves kinds label I)
    (second : ∀ m, I m → (next (ofFunction label m)).Leaves kinds label I) :
    (pass.andThen next).Leaves kinds label I := by
  intro free
  rw [andThen_diagnostics, freeOf_append] at free
  obtain ⟨m, table, holds⟩ := first free.1
  rw [andThen_table, table]
  rw [table] at free
  exact second m holds free.2

/-- What every step keeps is kept by a pass over a list. -/
theorem each {α : Type} {step : Table → α → Pass}
    (keeps : ∀ m a, I m → (step (ofFunction label m) a).Leaves kinds label I)
    {m : NameMap Symbol} (start : I m) (xs : List α) :
    (Pass.each step (ofFunction label m) xs).Leaves kinds label I := by
  induction xs generalizing m with
  | nil => exact fun _ => ⟨m, rfl, start⟩
  | cons a rest ih => exact (keeps m a start).andThen fun _ holds => ih holds

end Pass.Leaves

/-! ### Rules for values -/

/-- The type of the variables that may hold a constant. -/
def Constant.type : Constant → Ty
  | .int _ => .int
  | .bool _ => .bool

/-- `Allows type value` is a rule for the values, known or not, of things of a
type. It has to cover what a check computes without a report of `kinds`. -/
structure ValueRule (kinds : List DiagnosticKind) (Allows : Ty → Option Constant → Prop) :
    Prop where
  mismatch_counts : .typeMismatch ∈ kinds
  constant : ∀ c : Constant, Allows c.type (some c)
  default : ∀ type : Ty, Allows type type.default
  /-- What is read too early is reported, or the rule does not mind. -/
  unset : .uninitializedUse ∈ kinds ∨ ∀ type, Allows type none
  operation : ∀ {left right : Option Constant}, Allows .int left → Allows .int right →
    ∀ op span, Allows .int (binaryValue left op right span).1

/-- A symbol with a written type that holds what the rule allows, once something
was stored in it, and nothing before. -/
structure Symbol.Obeys (Allows : Ty → Option Constant → Prop) (s : Symbol) : Prop where
  type_ne_error : s.type ≠ .error
  stored : s.initialized = true → Allows s.type s.value
  unset : s.initialized = false → s.value = none

namespace ValueRule

variable {kinds : List DiagnosticKind} {Allows : Ty → Option Constant → Prop} {label : String}
  {m : NameMap Symbol}

/-- An expression about which nothing is reported has a value that goes with
its type. -/
theorem check (rule : ValueRule kinds Allows) (obeys : m.All fun _ s => s.Obeys Allows) {e : Expr}
    (free : FreeOf kinds (e.check (ofFunction label m)).2) :
    Allows (e.check (ofFunction label m)).1.type (e.check (ofFunction label m)).1.value := by
  induction e with
  | number value span => exact rule.constant (.int value)
  | boolean value span => exact rule.constant (.bool value)
  | var name span =>
      simp only [Expr.check, checkName, lookup?_ofFunction] at free ⊢
      cases found : m.get? name with
      | none => exact rule.default .error
      | some symbol =>
          simp only [found] at free ⊢
          have obeys := obeys name symbol found
          cases initialized : symbol.initialized with
          | true => exact obeys.stored initialized
          | false =>
              rw [obeys.unset initialized]
              rcases rule.unset with counted | allowed
              · simp [initialized, counted] at free
              · exact allowed symbol.type
  | binary left op right span ihLeft ihRight =>
      simp only [Expr.check, freeOf_append] at free ⊢
      obtain ⟨⟨⟨leftFree, rightFree⟩, typed⟩, -⟩ := free
      obtain ⟨leftInt, rightInt⟩ := (freeOf_binaryType rule.mismatch_counts).mp typed
      have leftAllowed := ihLeft leftFree
      have rightAllowed := ihRight rightFree
      rw [leftInt] at leftAllowed ⊢
      rw [rightInt] at rightAllowed ⊢
      exact rule.operation leftAllowed rightAllowed op span

/-- What is stored without a report goes with the type of the variable. -/
theorem store (rule : ValueRule kinds Allows) (obeys : m.All fun _ s => s.Obeys Allows) {e : Expr}
    {target : Ty} {name : String} {span : Span}
    (free : FreeOf kinds ((e.check (ofFunction label m)).2 ++
      checkStore target (e.check (ofFunction label m)).1.type name span)) :
    Allows target (e.check (ofFunction label m)).1.value := by
  obtain ⟨checked, stored⟩ := freeOf_append.mp free
  rw [((freeOf_checkStore rule.mismatch_counts).mp stored).1]
  exact rule.check obeys checked

theorem leaves_param (rule : ValueRule kinds Allows) (obeys : m.All fun _ s => s.Obeys Allows)
    (p : Param) :
    (checkParam (ofFunction label m) p).Leaves kinds label (·.All fun _ s => s.Obeys Allows) := by
  intro _
  cases found : m.get? p.name with
  | some existing =>
      rw [checkParam_duplicate found]
      exact ⟨m, rfl, obeys⟩
  | none =>
      rw [checkParam_fresh found]
      exact ⟨_, rfl, obeys.insert ⟨Ty.ofTypeName_ne_error p.type, fun _ => rule.default _, nofun⟩⟩

theorem leaves_var (rule : ValueRule kinds Allows) (type : TypeName)
    (obeys : m.All fun _ s => s.Obeys Allows) (v : VarDecl) :
    (checkVar (.ofTypeName type) (ofFunction label m) v).Leaves kinds label
      (·.All fun _ s => s.Obeys Allows) := by
  intro free
  cases found : m.get? v.name with
  | some existing =>
      rw [checkVar_duplicate found]
      exact ⟨m, rfl, obeys⟩
  | none =>
      have written := Ty.ofTypeName_ne_error type
      cases initial : v.init with
      | none =>
          rw [checkVar_plain found initial]
          exact ⟨_, rfl, obeys.insert ⟨written, nofun, fun _ => rfl⟩⟩
      | some init =>
          rw [checkVar_initialized found initial rfl] at free ⊢
          exact ⟨_, rfl, obeys.insert ⟨written, fun _ => rule.store obeys free, nofun⟩⟩

theorem leaves_assignment (rule : ValueRule kinds Allows)
    (obeys : m.All fun _ s => s.Obeys Allows) (target : String) (value : Expr) (span : Span) :
    (checkAssignment (ofFunction label m) target value span).Leaves kinds label
      (·.All fun _ s => s.Obeys Allows) := by
  intro free
  cases found : m.get? target with
  | none =>
      rw [checkAssignment_unknown found]
      exact ⟨m, rfl, obeys⟩
  | some symbol =>
      rw [checkAssignment_declared found rfl] at free ⊢
      refine ⟨_, rfl, obeys.modify fun s held => ?_⟩
      have same : symbol = s := Option.some.inj (found.symm.trans held)
      subst same
      exact ⟨(obeys target symbol found).type_ne_error, fun _ => rule.store obeys free, nofun⟩

theorem leaves_stmt (rule : ValueRule kinds Allows) (function : String)
    (obeys : m.All fun _ s => s.Obeys Allows) (s : Stmt) :
    (checkStmt function (ofFunction label m) s).Leaves kinds label
      (·.All fun _ s => s.Obeys Allows) := by
  cases s with
  | declaration type vars span =>
      exact .each (fun _ v obeys => rule.leaves_var type obeys v) obeys vars
  | assignment target value span => exact rule.leaves_assignment obeys target value span
  | ret value span => cases value <;> exact fun _ => ⟨m, rfl, obeys⟩
  | expr e span => exact fun _ => ⟨m, rfl, obeys⟩

/-- A check without a report of `kinds` ends with symbols that obey the rule. -/
theorem analyze (rule : ValueRule kinds Allows) {p : Program}
    (free : FreeOf kinds (analyze p).diagnostics) :
    ∃ m, (Scopewise.analyze p).table = leftFunction (functionLabel p.function.name) m ∧
      m.All fun _ s => s.Obeys Allows := by
  rw [analyze_diagnostics, freeOf_append] at free
  have params : p.function.paramsPass.Leaves kinds (functionLabel p.function.name)
      (·.All fun _ s => s.Obeys Allows) :=
    .each (fun _ p obeys => rule.leaves_param obeys p) (NameMap.all_empty _) p.function.params
  have whole : p.function.pass.Leaves kinds (functionLabel p.function.name)
      (·.All fun _ s => s.Obeys Allows) :=
    params.andThen fun _ obeys =>
      .each (fun _ s obeys => rule.leaves_stmt p.function.name obeys s) obeys p.function.body
  obtain ⟨m, table, obeys⟩ := whole free.1
  exact ⟨m, analyze_table table, obeys⟩

end ValueRule

/-! ### Values are of their types -/

/-- An operation has a value exactly if both operands are known integers, and
that is an integer; a division by zero goes on with zero. -/
theorem binaryValue_cases (left : Option Constant) (op : Operator) (right : Option Constant)
    (span : Span) :
    (∃ l r value, left = some (.int l) ∧ right = some (.int r) ∧
        (binaryValue left op right span).1 = some (.int value)) ∨
      (¬ ∃ l r, left = some (.int l) ∧ right = some (.int r)) ∧
        (binaryValue left op right span).1 = none := by
  match left, right with
  | some (.int l), some (.int r) =>
      left
      simp only [binaryValue, Constant.fold, Option.bind_some, Constant.toInt?]
      cases Constant.apply op l r with
      | ok value => exact ⟨l, r, value, rfl, rfl, rfl⟩
      | error e => exact ⟨l, r, 0, rfl, rfl, rfl⟩
  | none, _ | some (.bool _), _ => exact .inr ⟨by simp, rfl⟩
  | some (.int _), none | some (.int _), some (.bool _) => exact .inr ⟨by simp, rfl⟩

/-- Known values are of the type. -/
def Ty.Fits (type : Ty) (value : Option Constant) : Prop := ∀ c ∈ value, c.type = type

theorem valueRule_fits : ValueRule [.typeMismatch] Ty.Fits where
  mismatch_counts := by simp
  constant c := by simp [Ty.Fits]
  default type := by cases type <;> simp [Ty.Fits, Ty.default, Constant.type]
  unset := .inr fun _ => nofun
  operation {left right} _ _ op span := by
    rcases binaryValue_cases left op right span with ⟨_, _, value, -, -, known⟩ | ⟨-, unknown⟩
    · simp [Ty.Fits, known, Constant.type]
    · simp [Ty.Fits, unknown]

/-- **Stored values are of their types.** Where a check reports no type
mismatch, whatever else it reports, every symbol of the final table has a
written type and holds only values of that type, so none of type `void`; and it
holds no value before something was stored in it. -/
theorem analyze_stores_typed (p : Program)
    (free : FreeOf [.typeMismatch] (analyze p).diagnostics) :
    ∀ scope ∈ (analyze p).table.scopes, scope.symbols.All fun _ symbol =>
      (∀ c ∈ symbol.value, c.type = symbol.type) ∧
        (symbol.type = .void → symbol.value = none) ∧
        symbol.type ≠ .error ∧
        (symbol.initialized = false → symbol.value = none) := by
  obtain ⟨m, table, obeys⟩ := valueRule_fits.analyze free
  intro scope mem name symbol found
  have obeys : symbol.Obeys Ty.Fits := by
    rw [table] at mem
    rcases List.mem_cons.mp mem with rfl | mem
    · cases found
    · cases List.mem_singleton.mp mem
      exact obeys name symbol found
  have fits : ∀ c ∈ symbol.value, c.type = symbol.type := by
    cases initialized : symbol.initialized with
    | true => exact obeys.stored initialized
    | false =>
        rw [obeys.unset initialized]
        nofun
  refine ⟨fits, fun isVoid => ?_, obeys.type_ne_error, obeys.unset⟩
  cases held : symbol.value with
  | none => rfl
  | some c =>
      have typed := fits c held
      rw [isVoid] at typed
      cases c <;> cases typed

/-- A program that divides by zero, declares `q` twice, assigns the undeclared
`x`, reads `b` too early and never returns. -/
def Program.manyFaults : Program where
  function :=
    { returnType := .int
      name := "f"
      params := [{ type := .int, name := "n" }, { type := .void, name := "v" }]
      body :=
        [.declaration .int
          [{ name := "q"
             init := some (.binary (.var "n" .unknown) .divide (.number 0 .unknown) .unknown) },
            { name := "q" }] .unknown,
          .declaration .bool [{ name := "b" }] .unknown,
          .declaration .void [{ name := "w", init := some (.var "v" .unknown) }] .unknown,
          .assignment "x" (.number 1 .unknown) .unknown,
          .expr (.var "b" .unknown) .unknown] }

/-- Reports of all other kinds are no obstacle. -/
theorem analyze_stores_typed_manyFaults :
    (analyze .manyFaults).diagnostics.map (·.kind) =
        [.arithmeticFault, .structuralDuplicate, .uninitializedDeclaration, .unknownIdentifier,
          .uninitializedUse, .missingReturn] ∧
      FreeOf [.typeMismatch] (analyze .manyFaults).diagnostics ∧
      ∀ scope ∈ (analyze .manyFaults).table.scopes, scope.symbols.All fun _ symbol =>
        (∀ c ∈ symbol.value, c.type = symbol.type) ∧
          (symbol.type = .void → symbol.value = none) ∧
          symbol.type ≠ .error ∧
          (symbol.initialized = false → symbol.value = none) :=
  ⟨by decide, by decide, analyze_stores_typed .manyFaults (by decide)⟩

/-! ### Values are not lost -/

/-- A value is known, and of the type, where the type has values at all. -/
def Ty.Known (type : Ty) (value : Option Constant) : Prop :=
  value.map Constant.type = type.default.map Constant.type

theorem Ty.known_int_iff {value : Option Constant} :
    Ty.int.Known value ↔ ∃ n, value = some (.int n) := by
  match value with
  | none => simp [Known, default]
  | some (.int n) => simp [Known, default, Constant.type]
  | some (.bool b) => simp [Known, default, Constant.type]

theorem valueRule_known : ValueRule [.typeMismatch, .uninitializedUse] Ty.Known where
  mismatch_counts := by simp
  constant c := by cases c <;> rfl
  default type := rfl
  unset := .inl (by simp)
  operation {left right} leftKnown rightKnown op span := by
    obtain ⟨l, rfl⟩ := Ty.known_int_iff.mp leftKnown
    obtain ⟨r, rfl⟩ := Ty.known_int_iff.mp rightKnown
    rcases binaryValue_cases (some (.int l)) op (some (.int r)) span with
      ⟨_, _, value, -, -, known⟩ | ⟨unknown, -⟩
    · exact Ty.known_int_iff.mpr ⟨value, known⟩
    · exact absurd ⟨l, r, rfl, rfl⟩ unknown

/-- **No value is lost.** Where a check reports no type mismatch and no early
read, every symbol of the function in which something was stored holds a value
of its type, if that is `int` or `bool`. -/
theorem analyze_stores_known (p : Program)
    (free : FreeOf [.typeMismatch, .uninitializedUse] (analyze p).diagnostics) :
    ∃ id scope, (analyze p).table.global.children = [id] ∧
      (analyze p).table.scope? id = some scope ∧
      scope.symbols.All fun _ symbol => symbol.initialized = true →
        symbol.type = .int ∨ symbol.type = .bool →
        ∃ c, symbol.value = some c ∧ c.type = symbol.type := by
  obtain ⟨m, table, obeys⟩ := valueRule_known.analyze free
  rw [table]
  refine ⟨1, _, rfl, rfl, fun name symbol found initialized hasValues => ?_⟩
  have known := (obeys name symbol found).stored initialized
  rcases hasValues with type | type <;> rw [type] at known ⊢ <;>
    exact Option.map_eq_some_iff.mp known

/-- A program that goes on computing with the result of a division by zero. -/
def Program.zeroDivisor : Program where
  function :=
    { returnType := .void
      name := "f"
      params := [{ type := .int, name := "n" }, { type := .bool, name := "c" }]
      body :=
        [.declaration .int
          [{ name := "q"
             init := some (.binary (.var "n" .unknown) .divide (.number 0 .unknown) .unknown) },
            { name := "r" }] .unknown,
          .assignment "r" (.binary (.var "q" .unknown) .plus (.number 5 .unknown) .unknown)
            .unknown,
          .declaration .bool [{ name := "d", init := some (.var "c" .unknown) }] .unknown,
          .assignment "x" (.var "r" .unknown) .unknown] }

/-- The values behind a division by zero stay known. -/
theorem analyze_stores_known_zeroDivisor :
    (analyze .zeroDivisor).diagnostics.map (·.kind) =
        [.arithmeticFault, .uninitializedDeclaration, .unknownIdentifier] ∧
      FreeOf [.typeMismatch, .uninitializedUse] (analyze .zeroDivisor).diagnostics ∧
      ∃ id scope, (analyze .zeroDivisor).table.global.children = [id] ∧
        (analyze .zeroDivisor).table.scope? id = some scope ∧
        scope.symbols.All fun _ symbol => symbol.initialized = true →
          symbol.type = .int ∨ symbol.type = .bool →
          ∃ c, symbol.value = some c ∧ c.type = symbol.type :=
  ⟨by decide, by decide, analyze_stores_known .zeroDivisor (by decide)⟩

end Scopewise
