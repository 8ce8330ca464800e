/-
First declarations.

A function declares names in its parameters and in the variables of its body;
`FunctionDef.occurrences` lists these occurrences in source order. Only the
first occurrence of a name counts. What the final table knows of the name comes
from it, and from the assignments behind it; every later occurrence is reported
with the place of the first, and left out.

The invariant of the check is `Tracks m seen rest`: with the statements `rest`
still to come, the symbols `m` will know of each name what the first of the
occurrences `seen` says. `Pass.Records` says of a part of the check that it
keeps the invariant and reports what there is to report about the occurrences
it goes through; `of_again` and `of_first` are its steps, at one occurrence.
-/

import Scopewise.Proofs.Reports

namespace Scopewise

open Diagnostics Table

/-! ### Occurrences -/

/-- How an occurrence declares its name. -/
inductive Form where
  | param
  /-- A variable with an initial value. -/
  | initialized
  /-- A variable without one. -/
  | plain
deriving DecidableEq

/-- A place of the function at which a name is declared. -/
structure Occurrence where
  form : Form
  name : String
  type : TypeName
  span : Span
  /-- The statements behind the declaring one; for a parameter, the body. -/
  after : List Stmt

def Param.occurrence (body : List Stmt) (p : Param) : Occurrence where
  form := .param
  name := p.name
  type := p.type
  span := p.span
  after := body

def VarDecl.occurrence (type : TypeName) (after : List Stmt) (v : VarDecl) : Occurrence where
  form := if v.init.isSome then .initialized else .plain
  name := v.name
  type := type
  span := v.span
  after := after

/-- The variables of a statement, from left to right. -/
def Stmt.occurrences (after : List Stmt) : Stmt → List Occurrence
  | .declaration type vars _ => vars.map (VarDecl.occurrence type after)
  | _ => []

/-- The variables of a body, statement by statement. -/
def bodyOccurrences : List Stmt → List Occurrence
  | [] => []
  | s :: rest => s.occurrences rest ++ bodyOccurrences rest

/-- The parameters, then the variables. -/
def FunctionDef.occurrences (f : FunctionDef) : List Occurrence :=
  f.params.map (Param.occurrence f.body) ++ bodyOccurrences f.body

/-- Whether the statement assigns to `x`. -/
def Stmt.assigns (x : String) : Stmt → Bool
  | .assignment target _ _ => target == x
  | _ => false

theorem any_assigns_iff {x : String} {body : List Stmt} :
    body.any (Stmt.assigns x) = true ↔ ∃ value span, Stmt.assignment x value span ∈ body := by
  rw [List.any_eq_true]
  constructor
  · rintro ⟨s, mem, assigns⟩
    cases s with
    | assignment target value span =>
        obtain rfl : target = x := by simpa [Stmt.assigns] using assigns
        exact ⟨value, span, mem⟩
    | declaration | ret | expr => cases assigns
  · rintro ⟨value, span, mem⟩
    exact ⟨_, mem, by simp [Stmt.assigns]⟩

namespace Occurrence

/-- Whether something is stored by the occurrence itself. -/
def starts (o : Occurrence) : Bool := o.form != .plain

/-- The first occurrence of a name. -/
def firstOf (x : String) (os : List Occurrence) : Option Occurrence := os.find? (·.name == x)

/-- Each of the occurrences `os` with those before it, and `earlier` before
them all. -/
def withEarlier (earlier : List Occurrence) : List Occurrence → List (List Occurrence × Occurrence)
  | [] => []
  | o :: rest => (earlier, o) :: withEarlier (earlier ++ [o]) rest

/-- The occurrences that are not the first of their name, each behind the first. -/
def repeats (os : List Occurrence) : List (Occurrence × Occurrence) :=
  (withEarlier [] os).filterMap fun (earlier, o) => (firstOf o.name earlier).map (·, o)

/-- The occurrences that are the first of their name. -/
def firsts (os : List Occurrence) : List Occurrence :=
  (withEarlier [] os).filterMap fun (earlier, o) =>
    if (firstOf o.name earlier).isNone then some o else none

/-! ### What is reported at an occurrence -/

def noun (o : Occurrence) : String :=
  match o.form with
  | .param => "Parameter"
  | .initialized | .plain => "Variable"

/-- The report of an occurrence whose name was declared at `place`. -/
def duplicate (o : Occurrence) (place : Position) : Diagnostic where
  kind := .structuralDuplicate
  message := o.noun ++ " '" ++ o.name ++ "' is already declared in this scope"
  span := some o.span
  related := [⟨.point place, "previously declared here"⟩]

/-- The report of a first occurrence without an initial value. -/
def unset (o : Occurrence) : Diagnostic where
  kind := .uninitializedDeclaration
  message := "Variable '" ++ o.name ++ "' declared but not initialized"
  span := some o.span

/-- What is reported at `o`, behind `earlier`, about its declaration. -/
def report (earlier : List Occurrence) (o : Occurrence) : List Diagnostic :=
  match firstOf o.name earlier with
  | some first => [o.duplicate first.span.start]
  | none => if o.starts then [] else [o.unset]

theorem starts_iff {o : Occurrence} :
    o.starts = true ↔ o.form = .param ∨ o.form = .initialized := by
  unfold starts
  cases o.form <;> simp

theorem name_of_firstOf {x : String} {os : List Occurrence} {first : Occurrence}
    (found : firstOf x os = some first) : first.name = x := by
  simpa using List.find?_some found

theorem firstOf_concat (x : String) (os : List Occurrence) (o : Occurrence) :
    firstOf x (os ++ [o]) = (firstOf x os).or (if o.name = x then some o else none) := by
  simp [firstOf, List.find?_append, List.find?_singleton]

theorem withEarlier_append (earlier os os' : List Occurrence) :
    withEarlier earlier (os ++ os') =
      withEarlier earlier os ++ withEarlier (earlier ++ os) os' := by
  induction os generalizing earlier with
  | nil => simp [withEarlier]
  | cons o rest ih => simp [withEarlier, ih]

end Occurrence

open Occurrence

theorem VarDecl.noun_occurrence (type : TypeName) (after : List Stmt) (v : VarDecl) :
    (v.occurrence type after).noun = "Variable" := by
  unfold noun occurrence
  cases v.init <;> rfl

theorem VarDecl.starts_occurrence (type : TypeName) (after : List Stmt) (v : VarDecl) :
    (v.occurrence type after).starts = v.init.isSome := by
  unfold starts occurrence
  cases v.init <;> rfl

/-! ### What is known of a name -/

/-- What is known of a name in the end. -/
structure Standing where
  name : String
  type : Ty
  declaredAt : Position
  stored : Bool

/-- What will be known by a symbol, with the statements `rest` still to come. -/
def Symbol.standing (rest : List Stmt) (s : Symbol) : Standing :=
  ⟨s.name, s.type, s.declaredAt, s.initialized || rest.any (Stmt.assigns s.name)⟩

/-- What an occurrence says, if it is the first of its name. -/
def Occurrence.standing (o : Occurrence) : Standing :=
  ⟨o.name, .ofTypeName o.type, o.span.start, o.starts || o.after.any (Stmt.assigns o.name)⟩

/-- With the statements `rest` still to come, the symbols will know of each name
what the first of the occurrences `seen` says. -/
def Tracks (m : NameMap Symbol) (seen : List Occurrence) (rest : List Stmt) : Prop :=
  ∀ x, (m.get? x).map (Symbol.standing rest) = (firstOf x seen).map Occurrence.standing

namespace Tracks

variable {m : NameMap Symbol} {seen : List Occurrence} {rest : List Stmt} {o : Occurrence}

theorem empty (rest : List Stmt) : Tracks .empty [] rest := fun _ => rfl

theorem first_of_get? (tracks : Tracks m seen rest) {x : String} {symbol : Symbol}
    (found : m.get? x = some symbol) :
    ∃ first, firstOf x seen = some first ∧ symbol.standing rest = first.standing := by
  have same := tracks x
  rw [found, Option.map_some] at same
  obtain ⟨first, isFirst, standing⟩ := Option.map_eq_some_iff.mp same.symm
  exact ⟨first, isFirst, standing.symm⟩

theorem get?_eq_none_iff (tracks : Tracks m seen rest) {x : String} :
    m.get? x = none ↔ firstOf x seen = none := by
  rw [← Option.map_eq_none_iff (f := Symbol.standing rest), tracks x, Option.map_eq_none_iff]

theorem contains_iff (tracks : Tracks m seen rest) {x : String} :
    m.contains x = true ↔ ∃ o ∈ seen, o.name = x := by
  have isSome : m.contains x = (firstOf x seen).isSome := by
    simpa [NameMap.contains] using congrArg Option.isSome (tracks x)
  simp [isSome, firstOf]

/-- A symbol stands under its own name. -/
theorem name_of_get? (tracks : Tracks m seen rest) {x : String} {symbol : Symbol}
    (found : m.get? x = some symbol) : symbol.name = x := by
  obtain ⟨first, isFirst, standing⟩ := tracks.first_of_get? found
  rw [← name_of_firstOf isFirst]
  exact congrArg Standing.name standing

/-- A later occurrence of a name changes nothing. -/
theorem again (tracks : Tracks m seen rest) {first : Occurrence}
    (known : firstOf o.name seen = some first) : Tracks m (seen ++ [o]) rest := by
  intro x
  rw [tracks x, firstOf_concat]
  by_cases same : o.name = x
  · subst same
    rw [known, Option.some_or]
  · rw [if_neg same, Option.or_none]

/-- The first occurrence of a name brings its symbol. -/
theorem first (tracks : Tracks m seen rest) (fresh : firstOf o.name seen = none) {symbol : Symbol}
    (standing : symbol.standing rest = o.standing) :
    Tracks (m.insert o.name symbol) (seen ++ [o]) rest := by
  intro x
  rw [NameMap.get?_insert, firstOf_concat]
  by_cases same : o.name = x
  · subst same
    rw [if_pos rfl, if_pos rfl, fresh, Option.none_or, Option.map_some, Option.map_some, standing]
  · rw [if_neg same, if_neg same, Option.or_none, tracks x]

/-- Other statements than assignments store nothing. -/
theorem skip {s : Stmt} (tracks : Tracks m seen (s :: rest)) (stores : ∀ x, s.assigns x = false) :
    Tracks m seen rest := by
  have standing : Symbol.standing (s :: rest) = Symbol.standing rest := by
    funext symbol
    simp [Symbol.standing, stores]
  intro x
  rw [← tracks x, standing]

/-- An assignment stores something in its target, whatever that is. -/
theorem assign {target : String} {value : Expr} {span : Span}
    (tracks : Tracks m seen (.assignment target value span :: rest)) (stored : Option Constant) :
    Tracks (m.modify target (·.store stored)) seen rest := by
  intro x
  rw [← tracks x, NameMap.get?_modify]
  cases found : m.get? x with
  | none => simp
  | some symbol =>
      have named : symbol.name = x := tracks.name_of_get? found
      by_cases same : target = x
      · simp [same, Symbol.standing, Symbol.store, Stmt.assigns, named]
      · have spared : (target == x) = false := by simpa using same
        simp [same, Symbol.standing, Stmt.assigns, named, spared]

end Tracks

/-! ### Passes -/

/-- The kinds of report that an occurrence can give rise to. -/
def declarationKinds : List DiagnosticKind := [.structuralDuplicate, .uninitializedDeclaration]

/-- The diagnostics about declarations. -/
def Diagnostics.aboutDeclarations (ds : List Diagnostic) : List Diagnostic :=
  ds.filter fun d => d.kind ∈ declarationKinds

theorem aboutDeclarations_append (ds es : List Diagnostic) :
    aboutDeclarations (ds ++ es) = aboutDeclarations ds ++ aboutDeclarations es :=
  ofKinds_append ds es

theorem aboutDeclarations_eq_nil {ds : List Diagnostic} (free : FreeOf declarationKinds ds) :
    aboutDeclarations ds = [] :=
  ofKinds_eq_nil free

/-- The pass goes through the occurrences `os`, behind `seen`: it leaves symbols
that track them all, and reports what there is to report about them. -/
structure Pass.Records (label : String) (seen os : List Occurrence) (rest : List Stmt)
    (pass : Pass) : Prop where
  tracked : ∃ m, pass.table = ofFunction label m ∧ Tracks m (seen ++ os) rest
  reported : aboutDeclarations pass.diagnostics =
    (withEarlier seen os).flatMap fun e => e.2.report e.1

namespace Pass.Records

variable {label : String} {m : NameMap Symbol} {seen : List Occurrence} {rest : List Stmt}
  {pass : Pass} {o : Occurrence}

/-- A pass that declares nothing. -/
theorem of_tracks (tracks : Tracks m seen rest) (table : pass.table = ofFunction label m)
    (free : FreeOf declarationKinds pass.diagnostics) : pass.Records label seen [] rest where
  tracked := ⟨m, table, by rwa [List.append_nil]⟩
  reported := aboutDeclarations_eq_nil free

/-- A name that is declared already: the place of its first occurrence is
reported. -/
theorem of_again (tracks : Tracks m seen rest) {existing : Symbol}
    (found : m.get? o.name = some existing) (table : pass.table = ofFunction label m)
    (reported : pass.diagnostics = [o.duplicate existing.declaredAt]) :
    pass.Records label seen [o] rest := by
  obtain ⟨first, isFirst, standing⟩ := tracks.first_of_get? found
  have place : existing.declaredAt = first.span.start := congrArg Standing.declaredAt standing
  refine ⟨⟨m, table, tracks.again isFirst⟩, ?_⟩
  rw [reported, place]
  simp [withEarlier, report, isFirst, aboutDeclarations, declarationKinds, duplicate]

/-- A name that is not declared yet: it is declared with a symbol that says what
the occurrence says. -/
theorem of_first (tracks : Tracks m seen rest) (fresh : m.get? o.name = none) {symbol : Symbol}
    (table : pass.table = ofFunction label (m.insert o.name symbol))
    (standing : symbol.standing rest = o.standing)
    (reported : aboutDeclarations pass.diagnostics = if o.starts then [] else [o.unset]) :
    pass.Records label seen [o] rest := by
  have unseen := tracks.get?_eq_none_iff.mp fresh
  refine ⟨⟨_, table, tracks.first unseen standing⟩, ?_⟩
  rw [reported]
  simp [withEarlier, report, unseen]

theorem andThen {os os' : List Occurrence} {rest' : List Stmt} {next : Table → Pass}
    (records : pass.Records label seen os rest)
    (goesOn : ∀ m, Tracks m (seen ++ os) rest →
      (next (ofFunction label m)).Records label (seen ++ os) os' rest') :
    (pass.andThen next).Records label seen (os ++ os') rest' := by
  obtain ⟨⟨m, table, tracks⟩, reported⟩ := records
  obtain ⟨⟨m', table', tracks'⟩, reported'⟩ := goesOn m tracks
  constructor
  · refine ⟨m', ?_, by rwa [← List.append_assoc]⟩
    rw [Pass.andThen_table, table, table']
  · rw [Pass.andThen_diagnostics, aboutDeclarations_append, table, reported, reported',
      withEarlier_append, List.flatMap_append]

/-- A pass over a list that declares one name at each element. -/
theorem each {α : Type} {step : Table → α → Pass} {occurrence : α → Occurrence}
    (steps : ∀ m seen a, Tracks m seen rest →
      (step (ofFunction label m) a).Records label seen [occurrence a] rest)
    (tracks : Tracks m seen rest) (xs : List α) :
    (Pass.each step (ofFunction label m) xs).Records label seen (xs.map occurrence) rest := by
  induction xs generalizing m seen with
  | nil => exact of_tracks tracks rfl freeOf_nil
  | cons a others ih => exact (steps m seen a tracks).andThen fun m' tracks' => ih tracks'

end Pass.Records

/-! ### The check of a function -/

section Check

variable {label : String} {m : NameMap Symbol} {seen : List Occurrence} {rest : List Stmt}

theorem checkParam_records (tracks : Tracks m seen rest) (p : Param) :
    (checkParam (ofFunction label m) p).Records label seen [p.occurrence rest] rest := by
  cases found : m.get? p.name with
  | some existing =>
      rw [checkParam_duplicate found]
      exact .of_again tracks found rfl rfl
  | none =>
      rw [checkParam_fresh found]
      exact .of_first tracks found rfl rfl rfl

theorem checkVar_records (tracks : Tracks m seen rest) (type : TypeName) (v : VarDecl) :
    (checkVar (.ofTypeName type) (ofFunction label m) v).Records label seen
      [v.occurrence type rest] rest := by
  cases found : m.get? v.name with
  | some existing =>
      rw [checkVar_duplicate found]
      refine .of_again tracks found rfl ?_
      rw [duplicate, VarDecl.noun_occurrence]
      rfl
  | none =>
      cases initial : v.init with
      | none =>
          rw [checkVar_plain found initial]
          have starts : (v.occurrence type rest).starts = false := by
            rw [VarDecl.starts_occurrence, initial, Option.isSome_none]
          refine .of_first tracks found rfl ?_ ?_
          · rw [Occurrence.standing, starts]
            rfl
          · rw [starts]
            rfl
      | some init =>
          rw [checkVar_initialized found initial rfl]
          have starts : (v.occurrence type rest).starts = true := by
            rw [VarDecl.starts_occurrence, initial, Option.isSome_some]
          refine .of_first tracks found rfl ?_ ?_
          · rw [Occurrence.standing, starts]
            rfl
          · rw [starts, if_pos rfl]
            exact aboutDeclarations_eq_nil (init.freeOf_store (by decide) _ _ _ _ _)

theorem checkStmt_records (function : String) {s : Stmt} (tracks : Tracks m seen (s :: rest)) :
    (checkStmt function (ofFunction label m) s).Records label seen (s.occurrences rest) rest := by
  cases s with
  | declaration type vars span =>
      exact .each (fun _ _ v tracks => checkVar_records tracks type v) (tracks.skip fun _ => rfl)
        vars
  | assignment target value span =>
      cases found : m.get? target with
      | none =>
          rw [checkStmt, checkAssignment_unknown found]
          refine .of_tracks (tracks.assign none) ?_ (by simp [declarationKinds])
          rw [NameMap.modify_eq_self found]
      | some symbol =>
          rw [checkStmt, checkAssignment_declared found rfl]
          exact .of_tracks (tracks.assign _) rfl (value.freeOf_store (by decide) _ _ _ _ _)
  | ret value span =>
      have left := tracks.skip fun _ => rfl
      cases value with
      | none => exact .of_tracks left rfl freeOf_nil
      | some value => exact .of_tracks left rfl (value.freeOf_check (by decide) _)
  | expr e span =>
      exact .of_tracks (tracks.skip fun _ => rfl) rfl (e.freeOf_check (by decide) _)

theorem checkBody_records (function : String) {body : List Stmt} (tracks : Tracks m seen body) :
    (Pass.each (checkStmt function) (ofFunction label m) body).Records label seen
      (bodyOccurrences body) [] := by
  induction body generalizing m seen with
  | nil => exact .of_tracks tracks rfl freeOf_nil
  | cons s rest ih => exact (checkStmt_records function tracks).andThen fun m' tracks' => ih tracks'

theorem FunctionDef.pass_records (f : FunctionDef) :
    f.pass.Records (functionLabel f.name) [] f.occurrences [] := by
  have params : f.paramsPass.Records (functionLabel f.name) []
      (f.params.map (Param.occurrence f.body)) f.body :=
    .each (fun _ _ p tracks => checkParam_records tracks p) (.empty f.body) f.params
  exact params.andThen fun m tracks => checkBody_records f.name tracks

end Check

/-! ### The two kinds of report -/

/-- The reports of repeats, out of all reports about declarations. -/
theorem Occurrence.duplicates_reported (es : List (List Occurrence × Occurrence)) :
    (es.flatMap fun e => e.2.report e.1).filter (·.kind = .structuralDuplicate) =
      (es.filterMap fun (earlier, o) => (firstOf o.name earlier).map (·, o)).map
        fun (first, o) => o.duplicate first.span.start := by
  induction es with
  | nil => rfl
  | cons e es ih =>
      rw [List.flatMap_cons, List.filter_append, ih]
      cases known : firstOf e.2.name e.1 with
      | some first => simp [report, known, duplicate]
      | none => cases starts : e.2.starts <;> simp [report, known, starts, unset]

/-- The reports of missing initial values, out of all reports about
declarations. -/
theorem Occurrence.unset_reported (es : List (List Occurrence × Occurrence)) :
    (es.flatMap fun e => e.2.report e.1).filter (·.kind = .uninitializedDeclaration) =
      ((es.filterMap fun (earlier, o) =>
        if (firstOf o.name earlier).isNone then some o else none).filter (·.form = .plain)).map
        unset := by
  induction es with
  | nil => rfl
  | cons e es ih =>
      rw [List.flatMap_cons, List.filter_append, ih]
      cases known : firstOf e.2.name e.1 with
      | some first => simp [report, known, duplicate]
      | none => cases form : e.2.form <;> simp [report, known, starts, form, unset]

/-- What is reported about declarations is reported inside the function. -/
theorem analyze_filter_kind {k : DiagnosticKind} (counted : k ∈ declarationKinds) (p : Program) :
    (analyze p).diagnostics.filter (·.kind = k) =
      ((withEarlier [] p.function.occurrences).flatMap fun e => e.2.report e.1).filter
        (·.kind = k) := by
  have free : FreeOf declarationKinds (checkResult p.function) :=
    freeOf_checkResult (by decide) p.function
  have narrower : ∀ d : Diagnostic, (d.kind = k ∧ d.kind ∈ declarationKinds) ↔ d.kind = k := by
    intro d
    constructor
    · exact And.left
    · rintro rfl
      exact ⟨rfl, counted⟩
  have reported : aboutDeclarations (analyze p).diagnostics =
      (withEarlier [] p.function.occurrences).flatMap fun e => e.2.report e.1 := by
    rw [analyze_diagnostics, aboutDeclarations_append, aboutDeclarations_eq_nil free,
      List.append_nil]
    exact p.function.pass_records.reported
  rw [← reported, aboutDeclarations, List.filter_filter]
  simp only [← Bool.decide_and, narrower]

/-- **The first declaration wins.** The final table has two scopes, an empty
global one and that of the function. The function's symbols are those of the
names that occur; their types and places come from the first occurrence, and
they are initialized if that is a parameter, has an initial value or is
followed by an assignment. Every other occurrence is reported, in source order,
with the place of the first; so is every first occurrence of a variable without
an initial value. -/
theorem analyze_first_declaration (p : Program) :
    ∃ symbols : NameMap Symbol,
      (analyze p).table =
        { scopes :=
            [{ name := "global", symbols := .empty, parent := none, children := [1] },
              { name := "function_" ++ p.function.name ++ "_1", symbols, parent := some 0
                children := [] }]
          current := 0
          counter := 1 } ∧
      (∀ x, symbols.contains x = true ↔ ∃ o ∈ p.function.occurrences, o.name = x) ∧
      (∀ x symbol, symbols.get? x = some symbol →
        ∃ first, firstOf x p.function.occurrences = some first ∧ symbol.name = x ∧
          symbol.type = .ofTypeName first.type ∧ symbol.declaredAt = first.span.start ∧
          (symbol.initialized = true ↔ first.form = .param ∨ first.form = .initialized ∨
            ∃ value span, .assignment x value span ∈ first.after)) ∧
      (analyze p).diagnostics.filter (·.kind = .structuralDuplicate) =
        (repeats p.function.occurrences).map (fun (first, o) => o.duplicate first.span.start) ∧
      (analyze p).diagnostics.filter (·.kind = .uninitializedDeclaration) =
        ((firsts p.function.occurrences).filter (·.form = .plain)).map unset := by
  obtain ⟨symbols, table, tracks⟩ := p.function.pass_records.tracked
  rw [List.nil_append] at tracks
  refine ⟨symbols, ?_, fun x => tracks.contains_iff, ?_, ?_, ?_⟩
  · have named : scopeName (functionLabel p.function.name) 1 =
        "function_" ++ p.function.name ++ "_1" := by
      rw [scopeName, functionLabel, String.append_assoc]
      rfl
    rw [analyze_table table, leftFunction, ofFunction, named]
    rfl
  · intro x symbol found
    obtain ⟨first, isFirst, standing⟩ := tracks.first_of_get? found
    have stored : symbol.initialized = (first.starts || first.after.any (Stmt.assigns x)) := by
      simpa [Symbol.standing, Occurrence.standing, name_of_firstOf isFirst] using
        congrArg Standing.stored standing
    refine ⟨first, isFirst, tracks.name_of_get? found, congrArg Standing.type standing,
      congrArg Standing.declaredAt standing, ?_⟩
    rw [stored, Bool.or_eq_true, starts_iff, any_assigns_iff, or_assoc]
  · rw [analyze_filter_kind (by decide), duplicates_reported]
    rfl
  · rw [analyze_filter_kind (by decide), unset_reported]
    rfl

end Scopewise
