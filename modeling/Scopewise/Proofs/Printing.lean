/-
Outlines written in one walk.

A `Printer` writes the outline of a program while it walks over the tree. It
remembers how deep it is, and a label that waits for the next line. A line takes
the label with it (`Printer.line`), what is below a node is written one level
deeper (`Printer.nested`), and a label is announced by the parent of the node that
it belongs to (`Printer.announce`). What it writes is the outline of the program,
line by line (`Program.map_bare_emissions`, `Printer.out_print`).

The depth and the label are set and reset by hand at every kind of node, and could
get lost at any of them. They do not: from whatever depth and label, a node and
all that is below it is written with one line for each node in source order, the
depth is then what it was, and no label waits (`Printer.Prints`). This is shown kind
by kind, for expressions by induction. `Printer.writes_each_node_once` says what it
comes to for expressions and for programs.
-/

import Scopewise.Proofs.Addresses
import Scopewise.Proofs.Outlines

namespace Scopewise

/-! ### Printers -/

/-- A line as it was emitted. -/
structure Emission where
  depth : Nat
  label : Option String
  text : String
  /-- What the line is about. The headings of the parameters and of the statements
  are about no node of their own. -/
  subject : Option Node
deriving DecidableEq, Repr

/-- The line as it is written: two blanks per level, the label, the text. -/
def Emission.render (line : Emission) : String :=
  String.ofList (List.replicate (2 * line.depth) ' ') ++ line.label.getD "" ++ line.text ++ "\n"

/-- A printer at work. -/
structure Printer where
  /-- What was emitted so far, the first line first. -/
  emitted : List Emission := []
  depth : Nat := 0
  /-- The label that waits for the next line. -/
  label : Option String := none
deriving DecidableEq, Repr

namespace Printer

/-- The text that was written so far. -/
def out (s : Printer) : String := String.join (s.emitted.map Emission.render)

/-- Writes a line. It takes the label that waits, if there is one. -/
def line (s : Printer) (text : String) (subject : Option Node) : Printer :=
  { s with emitted := s.emitted ++ [⟨s.depth, s.label, text, subject⟩], label := none }

/-- Announces the label of the next line. -/
def announce (s : Printer) (label : String) : Printer := { s with label := some label }

/-- Goes on one level deeper, and comes back. -/
def nested (s : Printer) (inside : Printer → Printer) : Printer :=
  let s := inside { s with depth := s.depth + 1 }
  { s with depth := s.depth - 1 }

def expr (s : Printer) : Expr → Printer
  | e@(.binary left op right _) =>
      (s.line ("BinaryOp: " ++ op.name) (some (.expr e))).nested fun s =>
        (((s.announce "Left: ").expr left).announce "Right: ").expr right
  | e@(.number value _) => s.line ("Number: " ++ (Constant.int value).text) (some (.expr e))
  | e@(.boolean value _) => s.line ("Boolean: " ++ (Constant.bool value).text) (some (.expr e))
  | e@(.var name _) => s.line ("Variable: " ++ name) (some (.expr e))

def varDecl (s : Printer) (v : VarDecl) : Printer :=
  let s := s.line ("Variable: " ++ v.name) (some (.varDecl v))
  match v.init with
  | some init => s.nested fun s => (s.announce "= ").expr init
  | none => s

def stmt (s : Printer) : Stmt → Printer
  | st@(.declaration type vars _) =>
      (s.line ("Declaration: " ++ type.text) (some (.stmt st))).nested fun s => vars.foldl varDecl s
  | st@(.assignment target value _) =>
      (s.line ("Assignment: " ++ target) (some (.stmt st))).nested fun s =>
        (s.announce "= ").expr value
  | st@(.ret (some value) _) => (s.line "Return" (some (.stmt st))).nested fun s => s.expr value
  | st@(.ret none _) => s.line "Return (void)" (some (.stmt st))
  | st@(.expr e _) => (s.line "ExpressionStatement" (some (.stmt st))).nested fun s => s.expr e

def param (s : Printer) (q : Param) : Printer :=
  s.line ("Parameter: " ++ q.type.text ++ " " ++ q.name) (some (.param q))

/-- Writes the parameters under their heading; without parameters there is none. -/
def params (s : Printer) (qs : List Param) : Printer :=
  if qs.isEmpty then s else (s.line "Parameters:" none).nested fun s => qs.foldl param s

def function (s : Printer) (f : FunctionDef) : Printer :=
  (s.line ("FunctionDef: " ++ f.returnType.text ++ " " ++ f.name) (some (.function f))).nested
    fun s => ((s.params f.params).line "Statements:" none).nested fun s => f.body.foldl stmt s

def program (s : Printer) (p : Program) : Printer :=
  (s.line "Program" (some (.program p))).nested fun s => s.function p.function

/-- A printer that has written a program from the start. -/
def print (p : Program) : Printer := ({} : Printer).program p

/-! ### Steps that emit lines -/

/-- The printer after some more lines: as deep as before, and without a label. -/
def emit (s : Printer) (lines : List Emission) : Printer :=
  { s with emitted := s.emitted ++ lines, label := none }

@[simp] theorem depth_emit (s : Printer) (lines : List Emission) : (s.emit lines).depth = s.depth :=
  rfl

@[simp] theorem label_emit (s : Printer) (lines : List Emission) : (s.emit lines).label = none :=
  rfl

theorem out_emit (s : Printer) (lines : List Emission) :
    (s.emit lines).out = s.out ++ String.join (lines.map Emission.render) := by
  rw [out, emit, List.map_append, String.join_append]
  rfl

@[simp] theorem emit_emit (s : Printer) (lines more : List Emission) :
    (s.emit lines).emit more = s.emit (lines ++ more) := by
  simp [emit]

@[simp] theorem emit_announce (s : Printer) (label : String) (lines : List Emission) :
    (s.announce label).emit lines = s.emit lines := rfl

/-- At the given depth, and if no label waits, the step emits the given lines. -/
def Emits (depth : Nat) (step : Printer → Printer) (lines : List Emission) : Prop :=
  ∀ s : Printer, s.depth = depth → s.label = none → step s = s.emit lines

namespace Emits

variable {depth : Nat} {step : Printer → Printer} {lines : List Emission}

theorem nothing (depth : Nat) : Emits depth id [] := by
  intro s _ ready
  simp [emit, ← ready]

theorem andThen {next : Printer → Printer} {more : List Emission} (emits : Emits depth step lines)
    (emitsNext : Emits depth next more) : Emits depth (next ∘ step) (lines ++ more) := by
  intro s level ready
  rw [Function.comp_apply, emits s level ready, emitsNext (s.emit lines) level rfl, emit_emit]

/-- A loop emits what its turns emit. -/
theorem each {α : Type} {turn : Printer → α → Printer} {lines : α → List Emission}
    (emits : ∀ a, Emits depth (turn · a) (lines a)) (as : List α) :
    Emits depth (as.foldl turn) (as.flatMap lines) := by
  induction as with
  | nil => exact nothing depth
  | cons a as ih => exact (emits a).andThen ih

/-- A line with the label that waits, and below it what the step emits. -/
theorem below_line {s : Printer} (emits : Emits (s.depth + 1) step lines) (text : String)
    (subject : Option Node) :
    (s.line text subject).nested step = s.emit (⟨s.depth, s.label, text, subject⟩ :: lines) := by
  rw [nested, emits _ rfl rfl]
  simp [emit, Printer.line]

end Emits

end Printer

/-! ### The lines of a tree -/

/-- The label of a role, if it has one. -/
def Role.label? : Role → Option String
  | .plain => none
  | .stored => some Role.stored.label
  | .left => some Role.left.label
  | .right => some Role.right.label

/-- The text of the line of a node. -/
def Node.headline : Node → String
  | .program _ => "Program"
  | .function f => "FunctionDef: " ++ f.returnType.text ++ " " ++ f.name
  | .param q => "Parameter: " ++ q.type.text ++ " " ++ q.name
  | .stmt s => s.headline
  | .varDecl v => "Variable: " ++ v.name
  | .expr e => e.headline

/-- The line of a node, with its label, in a tree whose root is written at a given
depth. -/
def Site.line (depth : Nat) (label : Option String) (x : Site) : Emission :=
  ⟨depth + x.address.length, label, x.node.headline, some x.node⟩

namespace Node

/-- The lines of a tree whose root is written at a given depth and with a given
label. The others have the labels of their roles. -/
def emissions (depth : Nat) (label : Option String) (n : Node) : List Emission :=
  (n.preorder .plain).map fun x =>
    x.line depth (if x.address = [] then label else x.role.label?)

/-- The root has a role like the others, if its label is that of a role. -/
theorem emissions_role (depth : Nat) (role : Role) (n : Node) :
    n.emissions depth role.label? = (n.preorder role).map fun x => x.line depth x.role.label? := by
  rw [emissions, preorder_eq, preorder_eq, List.map_cons, List.map_cons]
  congr 1
  refine List.map_congr_left fun x mem => ?_
  obtain ⟨i, rest, -, address, -, -⟩ := Site.mem_underFrom.mp mem
  rw [address, if_neg (List.cons_ne_nil _ _)]

theorem emissions_eq (depth : Nat) (label : Option String) (n : Node) :
    n.emissions depth label =
      ⟨depth, label, n.headline, some n⟩ ::
        n.children.flatMap fun child => child.2.emissions (depth + 1) child.1.label? := by
  have deeper (i : Nat) (groups : List (List Site)) :
      ((Site.underFrom i groups).map fun x =>
          x.line depth (if x.address = [] then label else x.role.label?)) =
        groups.flatMap (List.map fun x => x.line (depth + 1) x.role.label?) := by
    induction groups generalizing i with
    | nil => rfl
    | cons first others ih =>
        rw [Site.underFrom, List.map_append, List.map_map, ih, List.flatMap_cons]
        congr 1
        refine List.map_congr_left fun x _ => ?_
        simp [Site.line, Site.under, Nat.add_assoc, Nat.add_comm 1]
  rw [emissions, preorder_eq, List.map_cons, deeper, List.flatMap_map]
  simp only [emissions_role]
  rfl

end Node

namespace Printer

/-! ### One lemma for each kind of node -/

/-- Whatever the depth and the label that waits, the step writes the node and all
that is below it. -/
def Prints (step : Printer → Printer) (n : Node) : Prop :=
  ∀ s, step s = s.emit (n.emissions s.depth s.label)

namespace Prints

variable {step : Printer → Printer} {n : Node} {depth : Nat}

theorem plain (prints : Prints step n) : Emits depth step (n.emissions depth none) := by
  rintro s rfl ready
  rw [prints, ready]

/-- An announced label is taken by the node, and by nothing else. -/
theorem announced (prints : Prints step n) (label : String) :
    Emits depth (fun s => step (s.announce label)) (n.emissions depth (some label)) := by
  rintro s rfl -
  show step (s.announce label) = _
  rw [prints, emit_announce]
  rfl

theorem line (n : Node) (childless : n.children = []) :
    Prints (·.line n.headline (some n)) n := by
  intro s
  rw [Node.emissions_eq, childless]
  rfl

/-- A node is written if its children are, behind its own line and one level
deeper. -/
theorem nested (n : Node) (inside : Printer → Printer)
    (emits : ∀ depth, Emits depth inside
      (n.children.flatMap fun child => child.2.emissions depth child.1.label?)) :
    Prints (fun s => (s.line n.headline (some n)).nested inside) n := by
  intro s
  rw [Node.emissions_eq]
  exact (emits (s.depth + 1)).below_line n.headline (some n)

end Prints

theorem prints_expr (e : Expr) : Prints (·.expr e) (.expr e) := by
  induction e with
  | number value span => exact .line (.expr (.number value span)) rfl
  | boolean value span => exact .line (.expr (.boolean value span)) rfl
  | var name span => exact .line (.expr (.var name span)) rfl
  | binary left op right span ihLeft ihRight =>
      refine .nested (.expr (.binary left op right span)) _ fun depth => ?_
      -- No label is left by the left operand, so the right one takes its own.
      exact (ihLeft.announced "Left: ").andThen ((ihRight.announced "Right: ").andThen (.nothing _))

/-- An expression that is stored somewhere, below the node that stores it. -/
theorem emits_stored (depth : Nat) (e : Expr) :
    Emits depth (fun s => (s.announce "= ").expr e)
      ([(Role.stored, Node.expr e)].flatMap fun child =>
        child.2.emissions depth child.1.label?) :=
  ((prints_expr e).announced "= ").andThen (.nothing depth)

theorem emits_plain (depth : Nat) (e : Expr) :
    Emits depth (·.expr e)
      ([(Role.plain, Node.expr e)].flatMap fun child =>
        child.2.emissions depth child.1.label?) :=
  (prints_expr e).plain.andThen (.nothing depth)

theorem prints_varDecl (v : VarDecl) : Prints (·.varDecl v) (.varDecl v) := by
  match v with
  | ⟨name, none, span⟩ => exact .line (.varDecl ⟨name, none, span⟩) rfl
  | ⟨name, some init, span⟩ =>
      exact .nested (.varDecl ⟨name, some init, span⟩) _ fun depth => emits_stored depth init

theorem prints_stmt (s : Stmt) : Prints (·.stmt s) (.stmt s) := by
  match s with
  | .declaration type vars span =>
      refine .nested (.stmt (.declaration type vars span)) (vars.foldl varDecl) fun depth => ?_
      rw [Node.children, List.flatMap_map]
      exact .each (fun v => (prints_varDecl v).plain) vars
  | .assignment target value span =>
      exact .nested (.stmt (.assignment target value span)) _ fun depth => emits_stored depth value
  | .ret (some value) span =>
      exact .nested (.stmt (.ret (some value) span)) _ fun depth => emits_plain depth value
  | .ret none span => exact .line (.stmt (.ret none span)) rfl
  | .expr e span =>
      exact .nested (.stmt (.expr e span)) _ fun depth => emits_plain depth e

theorem prints_param (q : Param) : Prints (·.param q) (.param q) := .line (.param q) rfl

end Printer

/-! ### Functions and programs -/

/-- The lines of a parameter list; an empty one has none. -/
def FunctionDef.paramEmissions (depth : Nat) (qs : List Param) : List Emission :=
  if qs.isEmpty then []
  else ⟨depth, none, "Parameters:", none⟩ ::
    qs.flatMap fun q => (Node.param q).emissions (depth + 1) none

/-- The lines of a function. The parameters and the statements are one level below
their headings. -/
def FunctionDef.emissions (depth : Nat) (f : FunctionDef) : List Emission :=
  ⟨depth, none, (Node.function f).headline, some (.function f)⟩ ::
    (paramEmissions (depth + 1) f.params ++
      ⟨depth + 1, none, "Statements:", none⟩ ::
        f.body.flatMap fun s => (Node.stmt s).emissions (depth + 2) none)

/-- The lines of a program. -/
def Program.emissions (p : Program) : List Emission :=
  ⟨0, none, (Node.program p).headline, some (.program p)⟩ :: p.function.emissions 1

namespace Printer

/-- A line without a label, and below it what the step emits. -/
theorem Emits.headed {depth : Nat} {step : Printer → Printer} {lines : List Emission}
    (emits : Emits (depth + 1) step lines) (text : String) (subject : Option Node) :
    Emits depth (fun s => (s.line text subject).nested step)
      (⟨depth, none, text, subject⟩ :: lines) := by
  rintro s rfl ready
  show (s.line text subject).nested step = _
  rw [emits.below_line, ready]

theorem emits_params (depth : Nat) (qs : List Param) :
    Emits depth (·.params qs) (FunctionDef.paramEmissions depth qs) := by
  unfold params FunctionDef.paramEmissions
  split
  · exact .nothing depth
  · exact (Emits.each (fun q => (prints_param q).plain) qs).headed "Parameters:" none

theorem emits_function (depth : Nat) (f : FunctionDef) :
    Emits depth (·.function f) (f.emissions depth) := by
  have body : Emits (depth + 1) (fun s => (s.line "Statements:" none).nested (f.body.foldl stmt)) _ :=
    (Emits.each (fun s => (prints_stmt s).plain) f.body).headed "Statements:" none
  exact ((emits_params (depth + 1) f.params).andThen body).headed _ _

theorem print_eq (p : Program) : print p = ({} : Printer).emit p.emissions :=
  (emits_function 1 p.function).headed _ _ {} rfl rfl

end Printer

/-! ### The outline is what is written -/

/-- A line of an outline, as it would be emitted. -/
def OutlineLine.emission (line : OutlineLine) : Emission :=
  ⟨line.depth, line.role.label?, line.text, none⟩

/-- The line itself, whatever it is about. -/
def Emission.bare (line : Emission) : Emission := { line with subject := none }

theorem OutlineLine.render_emission (line : OutlineLine) :
    line.emission.render = line.render ++ "\n" := by
  have label : line.role.label?.getD "" = line.role.label := by cases line.role <;> rfl
  rw [← String.toList_inj, String.toList_append, toList_render]
  simp [emission, Emission.render, label]

theorem Node.map_bare_emissions (depth : Nat) (label : Option String) (n : Node) :
    (n.emissions depth label).map Emission.bare =
      ⟨depth, label, n.headline, none⟩ ::
        n.children.flatMap fun child =>
          (child.2.emissions (depth + 1) child.1.label?).map Emission.bare := by
  rw [emissions_eq, List.map_cons, List.map_flatMap]
  rfl

theorem Expr.map_bare_emissions (depth : Nat) (role : Role) (e : Expr) :
    ((Node.expr e).emissions depth role.label?).map Emission.bare =
      (e.outline depth role).map OutlineLine.emission := by
  induction e generalizing depth role with
  | number | boolean | var =>
      rw [Node.map_bare_emissions]
      rfl
  | binary left op right span ihLeft ihRight =>
      rw [Node.map_bare_emissions, outline, List.map_cons, List.map_append, ← ihLeft, ← ihRight,
        ← List.append_nil (List.map _ ((Node.expr right).emissions _ _))]
      rfl

theorem VarDecl.map_bare_emissions (depth : Nat) (v : VarDecl) :
    ((Node.varDecl v).emissions depth none).map Emission.bare =
      (v.outline depth).map OutlineLine.emission := by
  rw [Node.map_bare_emissions]
  match v with
  | ⟨name, none, span⟩ => rfl
  | ⟨name, some init, span⟩ =>
      simp only [Node.children, List.flatMap_singleton, Expr.map_bare_emissions]
      rfl

theorem Stmt.map_bare_emissions (depth : Nat) (s : Stmt) :
    ((Node.stmt s).emissions depth none).map Emission.bare =
      (s.outline depth).map OutlineLine.emission := by
  rw [Node.map_bare_emissions]
  match s with
  | .declaration type vars span =>
      simp only [Node.children, List.flatMap_map, outline, List.map_cons, List.map_flatMap,
        ← VarDecl.map_bare_emissions]
      rfl
  | .assignment .. | .ret (some _) _ | .expr .. =>
      simp only [Node.children, List.flatMap_singleton, Expr.map_bare_emissions]
      rfl
  | .ret none span => rfl

theorem FunctionDef.map_bare_paramEmissions (depth : Nat) (qs : List Param) :
    (paramEmissions depth qs).map Emission.bare =
      (outlineParams depth qs).map OutlineLine.emission := by
  have param (q : Param) : ((Node.param q).emissions (depth + 1) none).map Emission.bare =
      [(q.outline (depth + 1)).emission] := by
    rw [Node.map_bare_emissions]
    rfl
  unfold paramEmissions outlineParams
  split
  · rfl
  · rw [List.map_cons, List.map_cons, List.map_flatMap, List.map_map, List.map_eq_flatMap]
    simp only [param]
    rfl

theorem FunctionDef.map_bare_emissions (depth : Nat) (f : FunctionDef) :
    (f.emissions depth).map Emission.bare = (f.outline depth).map OutlineLine.emission := by
  simp only [emissions, outline, List.map_cons, List.map_append, List.map_flatMap,
    map_bare_paramEmissions, Stmt.map_bare_emissions]
  rfl

theorem Program.map_bare_emissions (p : Program) :
    p.emissions.map Emission.bare = p.outline.map OutlineLine.emission := by
  rw [emissions, outline, List.map_cons, List.map_cons, FunctionDef.map_bare_emissions]
  rfl

namespace Printer

theorem emitted_print (p : Program) : (print p).emitted = p.emissions := by
  rw [print_eq]
  rfl

theorem out_print (p : Program) : (print p).out = p.outlineText := by
  calc (print p).out
    _ = String.join ((p.emissions.map Emission.bare).map Emission.render) := by
      -- What a line is about does not show in it.
      rw [out, emitted_print, List.map_map]
      rfl
    _ = p.outlineText := by
      rw [Program.map_bare_emissions, List.map_map, Program.outlineText]
      simp only [Function.comp_def, OutlineLine.render_emission]

/-! ### Labels of operands -/

/-- The label of an operand, by its address: the left operand is the child numbered
0. The expression at the root is nobody's operand and has the given label. -/
def operandLabel (label : Option String) (address : List Nat) : Option String :=
  match address.getLast? with
  | none => label
  | some 0 => some "Left: "
  | some _ => some "Right: "

/-- What is below an operand does not see the label above it. -/
theorem operandLabel_cons (label : Option String) (i : Nat) (rest : List Nat) :
    operandLabel label (i :: rest) = operandLabel (operandLabel none [i]) rest := by
  simp only [operandLabel, List.getLast?_cons]
  cases rest.getLast? with
  | none => cases i <;> rfl
  | some j => cases j <;> rfl

/-- In an expression the address tells the role. -/
theorem label?_eq_operandLabel {e : Expr} {role : Role} {x : Site}
    (mem : x ∈ (Node.expr e).preorder role) :
    x.role.label? = operandLabel role.label? x.address := by
  induction e generalizing role x with
  | number | boolean | var =>
      rw [Node.preorder_eq] at mem
      cases List.mem_singleton.mp mem
      rfl
  | binary left op right span ihLeft ihRight =>
      rw [Node.preorder_eq, List.mem_cons] at mem
      rcases mem with rfl | mem
      · rfl
      obtain ⟨j, rest, group, address, found, mem⟩ := Site.mem_underFrom.mp mem
      rw [address, operandLabel_cons]
      -- Seen from an operand, the label announced for it is that of the root.
      match j with
      | 0 =>
          cases found
          exact ihLeft mem
      | 1 =>
          cases found
          exact ihRight mem

end Printer

/-! ### Numbers of lines -/

/-- A text of so many lines, each of them with a line feed at its end. -/
def HasLines (text : String) (number : Nat) : Prop :=
  ∃ lines : List String, lines.length = number ∧ (∀ line ∈ lines, '\n' ∉ line.toList) ∧
    text = String.join (lines.map (· ++ "\n"))

theorem Program.hasLines_outlineText {p : Program} (named : ∀ x ∈ p.names, '\n' ∉ x.toList) :
    HasLines p.outlineText p.outline.length := by
  refine ⟨p.outline.map OutlineLine.render, by simp, ?_, ?_⟩
  · rw [List.forall_mem_map]
    intro line mem
    exact (tidy_outline named line mem).oneLine_render
  · rw [List.map_map]
    rfl

theorem Node.length_emissions (depth : Nat) (label : Option String) (n : Node) :
    (n.emissions depth label).length = n.nodes.length := by
  rw [emissions, nodes, List.length_map, List.length_map]

theorem FunctionDef.length_paramEmissions (depth : Nat) (qs : List Param) :
    (paramEmissions depth qs).length = if qs.isEmpty then 0 else 1 + qs.length := by
  unfold paramEmissions
  split
  · rfl
  · simp [List.length_flatMap, Node.length_emissions, Node.nodes_param, Nat.add_comm]

theorem FunctionDef.length_emissions (depth : Nat) (f : FunctionDef) :
    (f.emissions depth).length =
      2 + (if f.params.isEmpty then 0 else 1 + f.params.length) +
        (f.body.flatMap fun s => (Node.stmt s).nodes).length := by
  simp only [emissions, List.length_cons, List.length_append, length_paramEmissions,
    List.length_flatMap, Node.length_emissions]
  omega

/-- One line for each node, one for the heading of the statements, and one for that
of the parameters if there are any. -/
theorem Program.length_outline (p : Program) :
    p.outline.length =
      3 + (if p.function.params.isEmpty then 0 else 1 + p.function.params.length) +
        (Node.program p).nodes.countP Node.inBody := by
  have lines := congrArg List.length p.map_bare_emissions
  rw [List.length_map, List.length_map, emissions, List.length_cons,
    FunctionDef.length_emissions] at lines
  rw [← lines, countP_inBody]
  omega

/-! ### The whole run -/

namespace Printer

theorem emissions_expr (depth : Nat) (label : Option String) (e : Expr) :
    (Node.expr e).emissions depth label =
      ((Node.expr e).preorder .plain).map fun x =>
        x.line depth (operandLabel label x.address) := by
  refine List.map_congr_left fun x mem => ?_
  rw [label?_eq_operandLabel mem]
  cases x.address with
  | nil => rfl
  | cons i rest =>
      rw [if_neg (List.cons_ne_nil i rest), operandLabel_cons, operandLabel_cons label]

/-- **Printing.** Whatever the depth and the label that waits, an expression is
written with one line for each of its nodes, in source order. A line is as much
deeper as its node is. The first one takes the label that was waiting, the others
are labelled as left or right operands, and in the end the depth is what it was
and no label waits. With the label of a role these are the lines of its outline.

A program is written as its outline, and so ends at depth 0 with no label. If no
name contains a line feed, it has three lines for the program, the function and
the heading of the statements, one line for each parameter and one for their
heading if there are any, and one for each node of the body. -/
theorem writes_each_node_once :
    (∀ (s : Printer) (e : Expr),
      let nodes := (Node.expr e).preorder .plain
      nodes.Pairwise Site.Before ∧
        (∀ x : Site, x ∈ nodes ↔ (Node.expr e).at? .plain x.address = some (x.role, x.node)) ∧
        (s.expr e).emitted =
          s.emitted ++ nodes.map (fun x => x.line s.depth (operandLabel s.label x.address)) ∧
        (s.expr e).out =
          s.out ++ String.join (nodes.map fun x =>
            String.ofList (List.replicate (2 * (s.depth + x.address.length)) ' ') ++
              (operandLabel s.label x.address).getD "" ++ x.node.headline ++ "\n") ∧
        (s.expr e).depth = s.depth ∧ (s.expr e).label = none ∧
        ∀ role : Role, s.label = role.label? →
          (s.expr e).emitted.map Emission.bare =
            s.emitted.map Emission.bare ++ (e.outline s.depth role).map OutlineLine.emission) ∧
      ∀ p : Program,
        (print p).emitted.map Emission.bare = p.outline.map OutlineLine.emission ∧
        (print p).out = p.outlineText ∧
        (print p).depth = 0 ∧ (print p).label = none ∧
        ((∀ x ∈ p.names, '\n' ∉ x.toList) →
          HasLines p.outlineText
            (3 + (if p.function.params.isEmpty then 0 else 1 + p.function.params.length) +
              (Node.program p).nodes.countP Node.inBody)) := by
  constructor
  · intro s e
    have written : s.expr e = s.emit ((Node.expr e).emissions s.depth s.label) := prints_expr e s
    refine ⟨Node.pairwise_preorder _ _, fun x => Node.mem_preorder, ?_, ?_, ?_, ?_, ?_⟩
    · rw [written, emissions_expr]
      rfl
    · rw [written, emissions_expr, out_emit, List.map_map]
      rfl
    · rw [written, depth_emit]
    · rw [written, label_emit]
    · intro role same
      rw [written, same, ← Expr.map_bare_emissions]
      exact List.map_append
  · intro p
    refine ⟨?_, out_print p, ?_, ?_, ?_⟩
    · rw [emitted_print, Program.map_bare_emissions]
    · rw [print_eq, depth_emit]
    · rw [print_eq, label_emit]
    · intro named
      rw [← p.length_outline]
      exact p.hasLines_outlineText named

end Printer

/-- `1 - a * 2` -/
def Expr.nested : Expr :=
  .binary (.number 1 .unknown) .minus
    (.binary (.var "a" .unknown) .times (.number 2 .unknown) .unknown) .unknown

/-- `int f(int a) { int x = 1 - a * 2, y; return; }` -/
def Program.nested : Program where
  function :=
    { returnType := .int
      name := "f"
      params := [{ type := .int, name := "a" }]
      body :=
        [.declaration .int [{ name := "x", init := some .nested }, { name := "y" }] .unknown,
          .ret none .unknown] }

/-- Three lines, two for the parameter, and nine for the nodes of the body. The
expression is written with five of them. -/
theorem Printer.writes_each_node_once_nested :
    (∀ x ∈ Program.nested.names, '\n' ∉ x.toList) ∧ HasLines Program.nested.outlineText 14 ∧
      let s : Printer := { depth := 5, label := some "= " }
      s.label = Role.stored.label? ∧
        (s.expr .nested).emitted.map Emission.bare =
          (Expr.nested.outline 5 .stored).map OutlineLine.emission ∧
        (s.expr .nested).emitted.length = 5 ∧
        (s.expr .nested).depth = 5 ∧ (s.expr .nested).label = none := by
  have named : ∀ x ∈ Program.nested.names, '\n' ∉ x.toList := by decide
  have lines := (writes_each_node_once.2 Program.nested).2.2.2.2 named
  rw [← Program.nested.length_outline] at lines
  obtain ⟨-, -, -, -, depth, label, outlined⟩ :=
    writes_each_node_once.1 { depth := 5, label := some "= " } Expr.nested
  exact ⟨named, lines, rfl, outlined .stored rfl, rfl, depth, label⟩

end Scopewise
