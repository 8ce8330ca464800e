/-
The outline of a program is unambiguous.

If no name of a program contains a line feed, its outline determines it up to
spans: `Program.outlineText_eq_iff` says that two such programs have the same
outline exactly if they are the same program without their spans. Apart from
line feeds a name may contain anything, also what looks like the start of
another line.

The text of an outline falls into lines, and every line shows how deep it is
indented, since no text starts with a blank (`OutlineLine.legible_render`). The
depth is what ends a node: all lines below it are deeper than its own
(`Shallow`). Within a node the headline tells what comes next.
-/

import Scopewise.Proofs.Legibility
import Scopewise.Tree.Outline

namespace Scopewise

/-! ### Lines -/

namespace OutlineLine

/-- What a line shows: its depth, and its text behind its label. -/
def shown (line : OutlineLine) : Nat × String := (line.depth, line.role.label ++ line.text)

/-- A text that does not start with a blank and stays on its line. -/
structure Tidy (line : OutlineLine) : Prop where
  starts : Stops (· == ' ') line.text.toList
  oneLine : '\n' ∉ line.text.toList

/-- A fixed part that starts a line, and a free part behind it. -/
theorem tidy_append {depth : Nat} {role : Role} {fixed free : String}
    (starts : fixed.toList.head?.any (· != ' ') = true) (fixedLine : '\n' ∉ fixed.toList)
    (freeLine : '\n' ∉ free.toList) : Tidy ⟨depth, role, fixed ++ free⟩ := by
  constructor
  · intro c first
    cases text : fixed.toList with
    | nil => simp [text] at starts
    | cons d more =>
        simp only [String.toList_append, text, List.cons_append, List.head?_cons] at first
        cases first
        simpa [text] using starts
  · simp [fixedLine, freeLine]

theorem tidy_fixed {depth : Nat} {role : Role} {fixed : String}
    (starts : fixed.toList.head?.any (· != ' ') = true) (fixedLine : '\n' ∉ fixed.toList) :
    Tidy ⟨depth, role, fixed⟩ := by
  have tidy : Tidy ⟨depth, role, fixed ++ ""⟩ := tidy_append starts fixedLine (by simp)
  rwa [String.append_empty] at tidy

theorem toList_render (line : OutlineLine) :
    line.render.toList =
      List.replicate (2 * line.depth) ' ' ++ (line.role.label ++ line.text).toList := by
  have blanks (n : Nat) :
      (String.join (List.replicate n "  ")).toList = List.replicate (2 * n) ' ' := by
    induction n with
    | zero => rfl
    | succ n ih =>
        rw [List.replicate_succ, String.join_cons, String.toList_append, ih]
        rfl
  rw [render, String.append_assoc, String.toList_append, blanks]

theorem Tidy.stops {line : OutlineLine} (tidy : line.Tidy) :
    Stops (· == ' ') (line.role.label ++ line.text).toList := by
  rw [String.toList_append]
  cases line.role with
  | plain => exact tidy.starts
  | stored | left | right => exact stops_cons (by decide) _

theorem Tidy.oneLine_render {line : OutlineLine} (tidy : line.Tidy) :
    '\n' ∉ line.render.toList := by
  have label : '\n' ∉ line.role.label.toList := by cases line.role <;> decide
  rw [toList_render]
  simp [label, tidy.oneLine]

/-- A tidy line can be read off a text. -/
theorem legible_render :
    Legible Tidy (fun line => line.render.toList ++ ['\n']) shown (fun _ => True) := by
  constructor
  intro line line' rest rest' tidy tidy' _ _ same
  obtain ⟨renders, rests⟩ := (legible_marked '\n').cancel tidy.oneLine_render
    tidy'.oneLine_render trivial trivial same
  refine ⟨?_, rests⟩
  have blanks (n : Nat) : ∀ c ∈ List.replicate n ' ', (c == ' ') = true := by
    intro c mem
    rw [List.eq_of_mem_replicate mem]
    rfl
  rw [id, id, toList_render, toList_render] at renders
  obtain ⟨indents, texts⟩ :=
    (legible_run (· == ' ')).cancel (blanks _) (blanks _) tidy.stops tidy'.stops renders
  have depths : 2 * line.depth = 2 * line'.depth := by
    simpa using congrArg List.length indents
  rw [shown, shown, String.toList_inj.mp texts]
  congr 1
  omega

end OutlineLine

/-- The lines of an outline can be read off its text. -/
theorem shown_eq_of_text_eq {lines lines' : List OutlineLine} (tidy : ∀ line ∈ lines, line.Tidy)
    (tidy' : ∀ line ∈ lines', line.Tidy)
    (same : String.join (lines.map fun line => line.render ++ "\n") =
      String.join (lines'.map fun line => line.render ++ "\n")) :
    lines.map OutlineLine.shown = lines'.map OutlineLine.shown := by
  have all : Legible (fun lines : List OutlineLine => ∀ line ∈ lines, line.Tidy)
      (List.flatMap fun line => line.render.toList ++ ['\n']) (List.map OutlineLine.shown)
      (fun rest => rest = []) :=
    OutlineLine.legible_render.flatMap (fun _ => trivial) fun _ rest => ⟨trivial, by simp⟩
  have texts := congrArg String.toList same
  simp only [String.toList_join, List.flatMap_map, String.toList_append] at texts
  exact (all.cancel tidy tidy' rfl rfl (by simpa using texts)).1

/-! ### The lines of a program are tidy -/

section Tidy

open OutlineLine

variable {depth : Nat} {line : OutlineLine}

theorem TypeName.oneLine_text (type : TypeName) : '\n' ∉ type.text.toList := by
  cases type <;> decide

theorem Expr.tidy_headline {role : Role} {e : Expr} (named : ∀ x ∈ e.names, '\n' ∉ x.toList) :
    Tidy ⟨depth, role, e.headline⟩ := by
  cases e with
  | binary left op right span =>
      have oneLine : '\n' ∉ op.name.toList := by cases op <;> decide
      exact tidy_append (by decide) (by decide) oneLine
  | number value span =>
      have oneLine : '\n' ∉ (Constant.int value).text.toList := by
        intro mem
        rcases Constant.mem_text_int mem with digit | sign
        · cases digit
        · cases sign
      exact tidy_append (by decide) (by decide) oneLine
  | boolean value span =>
      have oneLine : '\n' ∉ (Constant.bool value).text.toList := by cases value <;> decide
      exact tidy_append (by decide) (by decide) oneLine
  | var name span =>
      exact tidy_append (by decide) (by decide) (named name (List.mem_singleton_self name))

theorem Expr.tidy_outline {role : Role} {e : Expr} (named : ∀ x ∈ e.names, '\n' ∉ x.toList)
    (mem : line ∈ e.outline depth role) : line.Tidy := by
  induction e generalizing depth role with
  | number | boolean | var =>
      cases List.mem_singleton.mp mem
      exact tidy_headline named
  | binary left op right span ihLeft ihRight =>
      rw [outline, List.mem_cons, List.mem_append] at mem
      rcases mem with rfl | inLeft | inRight
      · exact tidy_headline named
      · exact ihLeft (fun x mem => named x (List.mem_append_left _ mem)) inLeft
      · exact ihRight (fun x mem => named x (List.mem_append_right _ mem)) inRight

theorem VarDecl.tidy_outline {v : VarDecl} (isName : '\n' ∉ v.name.toList)
    (named : ∀ x ∈ Expr.optionalNames v.init, '\n' ∉ x.toList)
    (mem : line ∈ v.outline depth) : line.Tidy := by
  rw [outline, List.mem_cons] at mem
  rcases mem with rfl | below
  · exact tidy_append (by decide) (by decide) isName
  · cases init : v.init with
    | none => simp [init] at below
    | some value =>
        rw [init] at below named
        exact Expr.tidy_outline named below

theorem Stmt.tidy_outline {s : Stmt} (reads : ∀ x ∈ s.reads, '\n' ∉ x.toList)
    (writes : ∀ x ∈ s.writes, '\n' ∉ x.toList) (mem : line ∈ s.outline depth) : line.Tidy := by
  cases s with
  | declaration type vars span =>
      rw [outline, List.mem_cons, List.mem_flatMap] at mem
      rcases mem with rfl | ⟨v, declared, below⟩
      · exact tidy_append (by decide) (by decide) type.oneLine_text
      · refine VarDecl.tidy_outline (writes v.name (List.mem_map_of_mem declared)) ?_ below
        intro x read
        exact reads x (List.mem_flatMap_of_mem declared read)
  | assignment target value span =>
      rw [outline, List.mem_cons] at mem
      rcases mem with rfl | below
      · exact tidy_append (by decide) (by decide) (writes target (List.mem_singleton_self target))
      · exact Expr.tidy_outline reads below
  | ret value span =>
      cases value with
      | none =>
          cases List.mem_singleton.mp mem
          exact tidy_fixed (by decide) (by decide)
      | some value =>
          rw [outline, List.mem_cons] at mem
          rcases mem with rfl | below
          · exact tidy_fixed (by decide) (by decide)
          · exact Expr.tidy_outline reads below
  | expr e span =>
      rw [outline, List.mem_cons] at mem
      rcases mem with rfl | below
      · exact tidy_fixed (by decide) (by decide)
      · exact Expr.tidy_outline reads below

theorem tidy_typed {fixed name : String} (type : TypeName)
    (starts : fixed.toList.head?.any (· != ' ') = true) (fixedLine : '\n' ∉ fixed.toList)
    (isName : '\n' ∉ name.toList) :
    Tidy { depth, text := fixed ++ type.text ++ " " ++ name } := by
  rw [String.append_assoc, String.append_assoc]
  refine tidy_append starts fixedLine ?_
  simp [type.oneLine_text, isName]

theorem FunctionDef.tidy_outlineParams {params : List Param}
    (named : ∀ p ∈ params, '\n' ∉ p.name.toList) (mem : line ∈ outlineParams depth params) :
    line.Tidy := by
  unfold outlineParams at mem
  split at mem
  · cases mem
  · rw [List.mem_cons, List.mem_map] at mem
    rcases mem with rfl | ⟨p, declared, rfl⟩
    · exact tidy_fixed (by decide) (by decide)
    · exact tidy_typed p.type (by decide) (by decide) (named p declared)

theorem Program.tidy_outline {p : Program} (named : ∀ x ∈ p.names, '\n' ∉ x.toList) :
    ∀ line ∈ p.outline, line.Tidy := by
  simp only [names, List.forall_mem_cons, List.forall_mem_append, List.forall_mem_map,
    List.forall_mem_flatMap] at named
  obtain ⟨isName, params, body⟩ := named
  intro line mem
  simp only [outline, FunctionDef.outline, List.mem_cons, List.mem_append, List.mem_flatMap] at mem
  rcases mem with rfl | rfl | inParams | rfl | ⟨s, inBody, below⟩
  · exact tidy_fixed (by decide) (by decide)
  · exact tidy_typed p.function.returnType (by decide) (by decide) isName
  · exact FunctionDef.tidy_outlineParams params inParams
  · exact tidy_fixed (by decide) (by decide)
  · exact Stmt.tidy_outline (body s inBody).1 (body s inBody).2 below

end Tidy

/-! ### Reading the tree off the lines -/

/-- The next line, if there is one, is not as deep as `depth`. -/
def Shallow (depth : Nat) (rest : List (Nat × String)) : Prop :=
  ∀ line ∈ rest.head?, line.1 < depth

theorem shallow_nil (depth : Nat) : Shallow depth [] := by
  rintro _ ⟨⟩

theorem shallow_cons {depth deeper : Nat} (above : depth < deeper) (text : String)
    (rest : List (Nat × String)) : Shallow deeper ((depth, text) :: rest) := by
  rintro _ ⟨⟩
  exact above

/-- Nodes of one depth, each with deeper lines below it, up to a line that is
not as deep. -/
theorem legible_nodes {α β : Type} {write : α → List (Nat × String)} {view : α → β} {depth : Nat}
    (legible : Legible (fun _ => True) write view (Shallow (depth + 1)))
    (first : ∀ a, ∃ text below, write a = (depth, text) :: below) :
    Legible (fun _ => True) (List.flatMap write) (List.map view) (Shallow depth) := by
  have nodes : Legible (fun as : List α => ∀ a ∈ as, True) (List.flatMap write) (List.map view)
      (Shallow depth) := by
    refine legible.flatMap ?_ ?_
    · intro rest closes line next
      exact Nat.lt_succ_of_lt (closes line next)
    · intro a _ rest
      obtain ⟨text, below, written⟩ := first a
      rw [written, List.cons_append]
      exact ⟨shallow_cons (Nat.lt_succ_self depth) text _, by simp [Shallow]⟩
  constructor
  intro as bs rest rest' _ _ closes closes' same
  exact nodes.cancel (fun _ _ => trivial) (fun _ _ => trivial) closes closes' same

theorem Operator.name_injective {op op' : Operator} (same : op.name = op'.name) : op = op' := by
  cases op <;> cases op' <;> simp [name] at same ⊢

namespace Expr

/-- The lines below the line of an expression. -/
def operandLines (depth : Nat) : Expr → List OutlineLine
  | .binary left _ right _ => left.outline depth .left ++ right.outline depth .right
  | .number .. | .boolean .. | .var .. => []

theorem outline_eq (depth : Nat) (role : Role) (e : Expr) :
    e.outline depth role = ⟨depth, role, e.headline⟩ :: e.operandLines (depth + 1) := by
  cases e <;> rfl

/-- The headline of an expression starts with its kind. -/
theorem tag_eq_of_headline_eq {e e' : Expr} (same : e.headline = e'.headline) :
    e.tag = e'.tag := by
  have initials : e.headline.toList.take 2 = e'.headline.toList.take 2 := by rw [same]
  cases e <;> cases e' <;> simp [headline] at initials <;> rfl

theorem cancel_headline {depth : Nat} {role : Role} {e e' : Expr} {rest rest' : List (Nat × String)}
    (same : (e.outline depth role).map OutlineLine.shown ++ rest =
      (e'.outline depth role).map OutlineLine.shown ++ rest') :
    e.headline = e'.headline ∧ e.tag = e'.tag ∧
      (e.operandLines (depth + 1)).map OutlineLine.shown ++ rest =
        (e'.operandLines (depth + 1)).map OutlineLine.shown ++ rest' := by
  obtain ⟨headlines, below⟩ : e.headline = e'.headline ∧ _ := by
    simpa [outline_eq, OutlineLine.shown] using same
  exact ⟨headlines, tag_eq_of_headline_eq headlines, below⟩

/-- An expression can be read off its lines, whatever follows. -/
theorem legible_outline (depth : Nat) (role : Role) :
    Legible (fun _ => True) (fun e => (e.outline depth role).map OutlineLine.shown)
      (Expr.map .unplaced) (fun _ => True) := by
  constructor
  intro e
  induction e generalizing depth role with
  | number value span =>
      intro e' rest rest' _ _ _ _ same
      obtain ⟨headlines, tags, below⟩ := cancel_headline same
      cases e' <;> simp only [tag, String.reduceEq] at tags
      case number value' span' =>
        have texts : (Constant.int value).text = (Constant.int value').text := by
          simpa [headline] using headlines
        rw [Constant.text_int_injective texts]
        exact ⟨rfl, below⟩
  | boolean value span =>
      intro e' rest rest' _ _ _ _ same
      obtain ⟨headlines, tags, below⟩ := cancel_headline same
      cases e' <;> simp only [tag, String.reduceEq] at tags
      case boolean value' span' =>
        have texts : (Constant.bool value).text = (Constant.bool value').text := by
          simpa [headline] using headlines
        rw [Constant.text_bool_injective texts]
        exact ⟨rfl, below⟩
  | var name span =>
      intro e' rest rest' _ _ _ _ same
      obtain ⟨headlines, tags, below⟩ := cancel_headline same
      cases e' <;> simp only [tag, String.reduceEq] at tags
      case var name' span' =>
        have names : name = name' := by simpa [headline] using headlines
        rw [names]
        exact ⟨rfl, below⟩
  | binary left op right span ihLeft ihRight =>
      intro e' rest rest' _ _ _ _ same
      obtain ⟨headlines, tags, below⟩ := cancel_headline same
      cases e' <;> simp only [tag, String.reduceEq] at tags
      case binary left' op' right' span' =>
        have ops : op.name = op'.name := by simpa [headline] using headlines
        simp only [operandLines, List.map_append, List.append_assoc] at below
        obtain ⟨lefts, behind⟩ := ihLeft _ _ trivial trivial trivial trivial below
        obtain ⟨rights, rests⟩ := ihRight _ _ trivial trivial trivial trivial behind
        refine ⟨?_, rests⟩
        rw [Expr.map, Expr.map, lefts, Operator.name_injective ops, rights]
        rfl

theorem cancel_outline {depth : Nat} {role : Role} {e e' : Expr} {rest rest' : List (Nat × String)}
    (same : (e.outline depth role).map OutlineLine.shown ++ rest =
      (e'.outline depth role).map OutlineLine.shown ++ rest') :
    e.map .unplaced = e'.map .unplaced ∧ rest = rest' :=
  (legible_outline depth role).cancel trivial trivial trivial trivial same

end Expr

theorem VarDecl.legible_outline (depth : Nat) :
    Legible (fun _ => True) (fun v => (v.outline depth).map OutlineLine.shown)
      (VarDecl.map .unplaced) (Shallow (depth + 1)) := by
  constructor
  intro v v' rest rest' _ _ ends ends' same
  have deeper (value : Expr) (more : List (Nat × String)) :
      ¬ Shallow (depth + 1)
        ((value.outline (depth + 1) .stored).map OutlineLine.shown ++ more) := by
    rw [Expr.outline_eq]
    simp [Shallow, OutlineLine.shown]
  simp only [outline, List.map_cons, List.cons_append, List.cons.injEq, OutlineLine.shown,
    Prod.mk.injEq, true_and] at same
  obtain ⟨names, below⟩ := same
  have names : v.name = v'.name := by simpa using names
  rw [VarDecl.map, VarDecl.map, names]
  cases init : v.init with
  | none =>
      cases init' : v'.init with
      | none =>
          simp only [init, init'] at below
          exact ⟨rfl, by simpa using below⟩
      | some value' =>
          simp only [init, init', List.map_nil, List.nil_append] at below
          exact absurd (below ▸ ends) (deeper value' rest')
  | some value =>
      cases init' : v'.init with
      | none =>
          simp only [init, init', List.map_nil, List.nil_append] at below
          exact absurd (below ▸ ends') (deeper value rest)
      | some value' =>
          simp only [init, init'] at below
          obtain ⟨values, rests⟩ := Expr.cancel_outline below
          refine ⟨?_, rests⟩
          rw [Option.map_some, Option.map_some, values]
          rfl

namespace Stmt

/-- The text of the first line of a statement. -/
def headline : Stmt → String
  | .declaration type _ _ => "Declaration: " ++ type.text
  | .assignment target _ _ => "Assignment: " ++ target
  | .ret (some _) _ => "Return"
  | .ret none _ => "Return (void)"
  | .expr .. => "ExpressionStatement"

/-- The lines below the first line of a statement. -/
def innerLines (depth : Nat) : Stmt → List OutlineLine
  | .declaration _ vars _ => vars.flatMap (VarDecl.outline depth)
  | .assignment _ value _ => value.outline depth .stored
  | .ret (some value) _ => value.outline depth .plain
  | .ret none _ => []
  | .expr e _ => e.outline depth .plain

theorem outline_eq (depth : Nat) (s : Stmt) :
    s.outline depth = { depth, text := s.headline } :: s.innerLines (depth + 1) := by
  match s with
  | .declaration .. | .assignment .. | .ret (some _) _ | .ret none _ | .expr .. => rfl

/-- The first line of a statement starts with its kind. -/
theorem tag_eq_of_headline_eq {s s' : Stmt} (same : s.headline = s'.headline) :
    s.tag = s'.tag := by
  have initials : s.headline.toList.head? = s'.headline.toList.head? := by rw [same]
  rcases s with _ | _ | ⟨_ | _, _⟩ | _ <;> rcases s' with _ | _ | ⟨_ | _, _⟩ | _ <;>
    simp [headline] at initials <;> rfl

/-- A statement can be read off its lines, up to a line that is not deeper. -/
theorem legible_outline (depth : Nat) :
    Legible (fun _ => True) (fun s => (s.outline depth).map OutlineLine.shown)
      (Stmt.map .unplaced) (Shallow (depth + 1)) := by
  have vars : Legible (fun _ => True)
      (List.flatMap fun v : VarDecl => (v.outline (depth + 1)).map OutlineLine.shown)
      (List.map (VarDecl.map .unplaced)) (Shallow (depth + 1)) :=
    legible_nodes (VarDecl.legible_outline (depth + 1)) fun v => ⟨_, _, rfl⟩
  constructor
  intro s s' rest rest' _ _ ends ends' same
  obtain ⟨headlines, below⟩ : s.headline = s'.headline ∧
      (s.innerLines (depth + 1)).map OutlineLine.shown ++ rest =
        (s'.innerLines (depth + 1)).map OutlineLine.shown ++ rest' := by
    simpa [outline_eq, OutlineLine.shown] using same
  have tags := tag_eq_of_headline_eq headlines
  cases s <;> cases s' <;> simp only [tag, String.reduceEq] at tags
  case declaration.declaration type group span type' group' span' =>
    have types : type.text = type'.text := by simpa [headline] using headlines
    simp only [innerLines, List.map_flatMap] at below
    obtain ⟨groups, rests⟩ := vars.cancel trivial trivial ends ends' below
    refine ⟨?_, rests⟩
    rw [Stmt.map, Stmt.map, TypeName.text_injective types, groups]
    rfl
  case assignment.assignment target value span target' value' span' =>
    have targets : target = target' := by simpa [headline] using headlines
    obtain ⟨maps, rests⟩ := Expr.cancel_outline below
    refine ⟨?_, rests⟩
    rw [Stmt.map, Stmt.map, targets, maps]
    rfl
  case ret.ret value span value' span' =>
    cases value <;> cases value' <;> simp only [headline, String.reduceEq] at headlines
    case none.none => exact ⟨rfl, below⟩
    case some.some value value' =>
      obtain ⟨maps, rests⟩ := Expr.cancel_outline below
      refine ⟨?_, rests⟩
      rw [Stmt.map, Stmt.map, Option.map_some, Option.map_some, maps]
      rfl
  case expr.expr e span e' span' =>
    obtain ⟨maps, rests⟩ := Expr.cancel_outline below
    refine ⟨?_, rests⟩
    rw [Stmt.map, Stmt.map, maps]
    rfl

end Stmt

/-! ### Parameters and functions -/

/-- A type and a name behind it can be told apart, whatever the name is. -/
theorem TypeName.typed_cancel {type type' : TypeName} {name name' : String}
    (same : type.text ++ " " ++ name = type'.text ++ " " ++ name') :
    type = type' ∧ name = name' := by
  have unmarked (type : TypeName) : ' ' ∉ type.text.toList := by cases type <;> decide
  have marked : (type.text.toList ++ [' ']) ++ name.toList =
      (type'.text.toList ++ [' ']) ++ name'.toList := by
    simpa using congrArg String.toList same
  obtain ⟨types, names⟩ :=
    (legible_marked ' ').cancel (unmarked type) (unmarked type') trivial trivial marked
  exact ⟨text_injective (String.toList_inj.mp types), String.toList_inj.mp names⟩

theorem legible_paramLines (depth : Nat) :
    Legible (fun _ => True) (List.map fun p : Param => (p.outline depth).shown)
      (List.map (Param.map .unplaced)) (Shallow depth) := by
  have one : Legible (fun _ => True) (fun p : Param => [(p.outline depth).shown])
      (Param.map .unplaced) (Shallow (depth + 1)) := by
    constructor
    intro p p' rest rest' _ _ _ _ same
    obtain ⟨texts, rests⟩ := List.cons.inj same
    have typed : p.type.text ++ " " ++ p.name = p'.type.text ++ " " ++ p'.name := by
      simpa [Param.outline, OutlineLine.shown, String.append_assoc] using texts
    obtain ⟨types, names⟩ := TypeName.typed_cancel typed
    refine ⟨?_, rests⟩
    rw [Param.map, Param.map, types, names]
    rfl
  have lines : (List.map fun p : Param => (p.outline depth).shown) =
      List.flatMap fun p => [(p.outline depth).shown] :=
    funext fun params => List.map_eq_flatMap
  rw [lines]
  exact legible_nodes one fun p => ⟨_, _, rfl⟩

theorem FunctionDef.shown_outlineParams (depth : Nat) (p : Param) (others : List Param) :
    (outlineParams depth (p :: others)).map OutlineLine.shown =
      (depth, "Parameters:") ::
        (p :: others).map fun p : Param => (p.outline (depth + 1)).shown := by
  simp [outlineParams, OutlineLine.shown, Role.label]

/-- A parameter list can be read off its lines, up to the line of the
statements. Only an empty one has no line of its own. -/
theorem legible_outlineParams (depth : Nat) :
    Legible (fun _ => True)
      (fun params => (FunctionDef.outlineParams depth params).map OutlineLine.shown)
      (List.map (Param.map .unplaced)) (fun rest => rest.head? = some (depth, "Statements:")) := by
  have empty : (FunctionDef.outlineParams depth []).map OutlineLine.shown = [] := rfl
  have noStatements (rest : List (Nat × String)) :
      ((depth, "Parameters:") :: rest).head? ≠ some (depth, "Statements:") := by
    simp
  have closes {rest : List (Nat × String)} (ends : rest.head? = some (depth, "Statements:")) :
      Shallow (depth + 1) rest := by
    intro line next
    cases ends.symm.trans next
    exact Nat.lt_succ_self depth
  constructor
  intro params params' rest rest' _ _ ends ends' same
  cases params with
  | nil =>
      cases params' with
      | nil => exact ⟨rfl, same⟩
      | cons p' others' =>
          rw [empty, List.nil_append, FunctionDef.shown_outlineParams, List.cons_append] at same
          exact absurd (same ▸ ends) (noStatements _)
  | cons p others =>
      cases params' with
      | nil =>
          rw [empty, List.nil_append, FunctionDef.shown_outlineParams, List.cons_append] at same
          exact absurd (same ▸ ends') (noStatements _)
      | cons p' others' =>
          rw [FunctionDef.shown_outlineParams, FunctionDef.shown_outlineParams, List.cons_append,
            List.cons_append] at same
          exact (legible_paramLines (depth + 1)).cancel trivial trivial (closes ends)
            (closes ends') (List.cons.inj same).2

/-! ### Programs -/

namespace Program

theorem shown_outline (p : Program) :
    p.outline.map OutlineLine.shown =
      (0, "Program") ::
        (1, "FunctionDef: " ++ (p.function.returnType.text ++ " " ++ p.function.name)) ::
          ((FunctionDef.outlineParams 2 p.function.params).map OutlineLine.shown ++
            (2, "Statements:") ::
              p.function.body.flatMap fun s => (s.outline 3).map OutlineLine.shown) := by
  simp [outline, FunctionDef.outline, OutlineLine.shown, Role.label, List.map_flatMap,
    String.append_assoc]

theorem withoutSpans_eq_of_outlineText_eq {p q : Program}
    (named : ∀ x ∈ p.names, '\n' ∉ x.toList) (named' : ∀ x ∈ q.names, '\n' ∉ x.toList)
    (same : p.outlineText = q.outlineText) : p.withoutSpans = q.withoutSpans := by
  have lines := shown_eq_of_text_eq (tidy_outline named) (tidy_outline named') same
  simp only [shown_outline, List.cons.injEq, Prod.mk.injEq, true_and] at lines
  obtain ⟨headlines, below⟩ := lines
  have typed : p.function.returnType.text ++ " " ++ p.function.name =
      q.function.returnType.text ++ " " ++ q.function.name := by
    simpa using headlines
  obtain ⟨types, names⟩ := TypeName.typed_cancel typed
  obtain ⟨params, behind⟩ := (legible_outlineParams 2).cancel trivial trivial rfl rfl below
  have body : Legible (fun _ => True)
      (List.flatMap fun s : Stmt => (s.outline 3).map OutlineLine.shown)
      (List.map (Stmt.map .unplaced)) (Shallow 3) :=
    legible_nodes (Stmt.legible_outline 3) fun s => ⟨_, _, by rw [Stmt.outline_eq]; rfl⟩
  have statements : (p.function.body.flatMap fun s => (s.outline 3).map OutlineLine.shown) ++ [] =
      (q.function.body.flatMap fun s => (s.outline 3).map OutlineLine.shown) ++ [] := by
    rw [(List.cons.inj behind).2]
  obtain ⟨bodies, -⟩ := body.cancel trivial trivial (shallow_nil 3) (shallow_nil 3) statements
  rw [withoutSpans, withoutSpans, map, map, FunctionDef.map, FunctionDef.map, types, names, params,
    bodies]
  rfl

end Program

/-! ### Spans are not shown -/

theorem Expr.outline_unplaced (depth : Nat) (role : Role) (e : Expr) :
    (e.map .unplaced).outline depth role = e.outline depth role := by
  induction e generalizing depth role with
  | binary left op right span ihLeft ihRight =>
      rw [Expr.map, outline, outline, ihLeft, ihRight]
      rfl
  | number | boolean | var => rfl

theorem VarDecl.outline_unplaced (depth : Nat) (v : VarDecl) :
    (v.map .unplaced).outline depth = v.outline depth := by
  unfold outline map
  cases v.init <;> simp [Expr.outline_unplaced]

theorem Stmt.outline_unplaced (depth : Nat) (s : Stmt) :
    (s.map .unplaced).outline depth = s.outline depth := by
  cases s with
  | declaration type vars span =>
      simp [map, outline, VarDecl.outline_unplaced, List.flatMap_map]
  | assignment target value span => simp [map, outline, Expr.outline_unplaced]
  | ret value span => cases value <;> simp [map, outline, Expr.outline_unplaced]
  | expr e span => simp [map, outline, Expr.outline_unplaced]

namespace Program

theorem outline_withoutSpans (p : Program) : p.withoutSpans.outline = p.outline := by
  have params (depth : Nat) (p : Param) : (p.map .unplaced).outline depth = p.outline depth := rfl
  simp [withoutSpans, map, FunctionDef.map, outline, FunctionDef.outline, FunctionDef.outlineParams,
    Stmt.outline_unplaced, List.flatMap_map, params, Function.comp_def]

/-- **The outline of a program is unambiguous.** Two programs none of whose names
contains a line feed have the same outline exactly if they are equal once all
spans are ignored. -/
theorem outlineText_eq_iff {p q : Program} (named : ∀ x ∈ p.names, '\n' ∉ x.toList)
    (named' : ∀ x ∈ q.names, '\n' ∉ x.toList) :
    p.outlineText = q.outlineText ↔ p.withoutSpans = q.withoutSpans := by
  constructor
  · exact withoutSpans_eq_of_outlineText_eq named named'
  · intro same
    have outlines : p.outline = q.outline := by
      rw [← outline_withoutSpans p, same, outline_withoutSpans]
    rw [outlineText, outlineText, outlines]

/-- A program whose names look like parts of an outline, with its function on a
given line. -/
def disguised (line : Int32) : Program where
  function :=
    { returnType := .bool
      name := " int f"
      params := [{ type := .int, name := "Parameter: int " }]
      body :=
        [.declaration .void
          [{ name := "", init := some (.var "= Number: 1" .unknown) }, { name := "  Return" }]
          .unknown,
          .assignment "x Left: "
            (.binary (.number (-1) .unknown) .divide (.var "Right: Boolean: true" .unknown)
              .unknown) .unknown,
          .ret none .unknown,
          .ret (some (.boolean false .unknown)) .unknown]
      span := .point ⟨line, 1⟩ }

theorem outlineText_eq_iff_disguised :
    (∀ x ∈ (disguised 1).names, '\n' ∉ x.toList) ∧ (∀ x ∈ (disguised 2).names, '\n' ∉ x.toList) ∧
      disguised 1 ≠ disguised 2 ∧ (disguised 1).outlineText = (disguised 2).outlineText ∧
      (disguised 1).withoutSpans = (disguised 2).withoutSpans := by
  have named : ∀ x ∈ (disguised 1).names, '\n' ∉ x.toList := by decide
  have named' : ∀ x ∈ (disguised 2).names, '\n' ∉ x.toList := by decide
  have same : (disguised 1).outlineText = (disguised 2).outlineText := rfl
  exact ⟨named, named', by decide, same, (outlineText_eq_iff named named').mp same⟩

-- A line feed in a name makes a line of its own: here, that of a second variable.
example :
    outlineText
        { function := { returnType := .int, name := "f", params := [], body :=
            [.declaration .int [{ name := "x\n        Variable: y" }] .unknown] } } =
      outlineText
        { function := { returnType := .int, name := "f", params := [], body :=
            [.declaration .int [{ name := "x" }, { name := "y" }] .unknown] } } := by
  decide

end Program

end Scopewise
