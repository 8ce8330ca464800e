/-
Leaves, walked over and written out.

A walk that has entries for the parameters and for the leaves of expressions, and
leaves all else to the defaults, is a different way through the tree than the one
that a printer takes: the printer has an entry of its own for nearly every kind of
node. Both reach the same parameters and leaves, each once and in source order
(`Program.walk_reaches_outlined_leaves`).

Either way is compared with the list of all nodes. The walk records what is found
at the nodes of the list that it has entries for (`Walk.onProgram_eq`), and the
lines that are about a node are about the nodes of the list, one by one
(`Program.filterMap_about_emissions`).
-/

import Scopewise.Proofs.Printing
import Scopewise.Tree.Walk

namespace Scopewise

/-! ### Leaves -/

namespace Node

/-- Expressions without operands. -/
def isLeaf : Node → Bool
  | .expr (.number ..) | .expr (.boolean ..) | .expr (.var ..) => true
  | .expr (.binary ..) | .program _ | .function _ | .param _ | .stmt _ | .varDecl _ => false

def isParam : Node → Bool
  | .param _ => true
  | .program _ | .function _ | .stmt _ | .varDecl _ | .expr _ => false

/-- What is recorded at a leaf, by the entry for its kind. -/
def recordLeaf {α : Type} (number : Int64 → Span → List α) (boolean : Bool → Span → List α)
    (var : String → Span → List α) : Node → List α
  | .expr (.number value span) => number value span
  | .expr (.boolean value span) => boolean value span
  | .expr (.var name span) => var name span
  | .expr (.binary ..) | .program _ | .function _ | .param _ | .stmt _ | .varDecl _ => []

end Node

/-- The leaves of a program in their places, in source order. -/
def Program.leaves (p : Program) : List Site :=
  ((Node.program p).preorder .plain).filter (·.node.isLeaf)

theorem Program.map_node_leaves (p : Program) :
    p.leaves.map (·.node) =
      (p.function.body.flatMap fun s => (Node.stmt s).nodes).filter Node.isLeaf := by
  have params : (p.function.params.map Node.param).filter Node.isLeaf = [] := by
    simp [Node.isLeaf]
  have nodes : p.leaves.map (·.node) = (Node.program p).nodes.filter Node.isLeaf := by
    rw [leaves, Node.nodes, List.filter_map]
    rfl
  rw [nodes, nodes_eq, List.filter_cons_of_neg Bool.false_ne_true,
    List.filter_cons_of_neg Bool.false_ne_true, List.filter_append, params, List.nil_append]

/-! ### Walks -/

/-- Nothing is recorded at what is no leaf. -/
theorem Node.flatMap_recordLeaf_filter {α : Type} (number : Int64 → Span → List α)
    (boolean : Bool → Span → List α) (var : String → Span → List α) (nodes : List Node) :
    (nodes.filter isLeaf).flatMap (recordLeaf number boolean var) =
      nodes.flatMap (recordLeaf number boolean var) := by
  have silent {n : Node} (other : ¬ n.isLeaf = true) : n.recordLeaf number boolean var = [] := by
    unfold recordLeaf
    split
    case h_1 | h_2 | h_3 => exact absurd rfl other
    all_goals rfl
  induction nodes with
  | nil => rfl
  | cons n nodes ih =>
      by_cases leaf : n.isLeaf = true
      · rw [List.filter_cons_of_pos leaf, List.flatMap_cons, List.flatMap_cons, ih]
      · rw [List.filter_cons_of_neg leaf, List.flatMap_cons, silent leaf, List.nil_append, ih]

theorem Node.flatMap_nodes {β : Type} (f : Node → List β) (n : Node) :
    n.nodes.flatMap f = f n ++ n.children.flatMap fun child => child.2.nodes.flatMap f := by
  rw [nodes_eq, List.flatMap_cons, List.flatMap_assoc]

namespace Walk

variable {α : Type} (param : Param → List α) (number : Int64 → Span → List α)
  (boolean : Bool → Span → List α) (var : String → Span → List α)

theorem onExpr_eq (e : Expr) :
    ({ param, number, boolean, var } : Walk α).onExpr e =
      (Node.expr e).nodes.flatMap (Node.recordLeaf number boolean var) := by
  induction e with
  | number | boolean | var =>
      rw [Node.flatMap_nodes]
      exact (List.append_nil _).symm
  | binary left op right span ihLeft ihRight =>
      rw [Node.flatMap_nodes, onExpr, ihLeft, ihRight,
        ← List.append_nil (List.flatMap _ (Node.expr right).nodes)]
      rfl

theorem onVarDecl_eq (v : VarDecl) :
    ({ param, number, boolean, var } : Walk α).onVarDecl v =
      (Node.varDecl v).nodes.flatMap (Node.recordLeaf number boolean var) := by
  rw [Node.flatMap_nodes]
  match v with
  | ⟨name, none, span⟩ => rfl
  | ⟨name, some init, span⟩ =>
      rw [Node.children, List.flatMap_singleton, ← onExpr_eq param]
      rfl

theorem onStmt_eq (s : Stmt) :
    ({ param, number, boolean, var } : Walk α).onStmt s =
      (Node.stmt s).nodes.flatMap (Node.recordLeaf number boolean var) := by
  rw [Node.flatMap_nodes]
  match s with
  | .declaration type vars span =>
      rw [Node.children, List.flatMap_map]
      simp only [← onVarDecl_eq param]
      rw [List.flatMap_def]
      rfl
  | .assignment .. | .ret (some _) _ | .expr .. =>
      rw [Node.children, List.flatMap_singleton, ← onExpr_eq param]
      rfl
  | .ret none span => rfl

/-- The parameters are recorded, and then the leaves. -/
theorem onProgram_eq (p : Program) :
    ({ param, number, boolean, var } : Walk α).onProgram p =
      p.function.params.flatMap param ++
        p.leaves.flatMap fun x => x.node.recordLeaf number boolean var := by
  rw [onProgram]
  congr 1
  calc p.function.body.flatMap ({ param, number, boolean, var } : Walk α).onStmt
    _ = (p.function.body.flatMap fun s => (Node.stmt s).nodes).flatMap
          (Node.recordLeaf number boolean var) := by
      rw [List.flatMap_assoc]
      simp only [← onStmt_eq param]
    _ = (p.leaves.map (·.node)).flatMap (Node.recordLeaf number boolean var) := by
      rw [p.map_node_leaves, Node.flatMap_recordLeaf_filter]
    _ = p.leaves.flatMap fun x => x.node.recordLeaf number boolean var := by
      rw [List.flatMap_map]

end Walk

/-! ### Lines -/

/-- The node that a line is about, with the text of the line. -/
def Emission.about (line : Emission) : Option (Node × String) :=
  line.subject.map fun n => (n, line.text)

theorem Node.filterMap_about_emissions (depth : Nat) (label : Option String) (n : Node) :
    (n.emissions depth label).filterMap Emission.about = n.nodes.map fun m => (m, m.headline) := by
  rw [emissions, nodes, List.filterMap_map, List.map_map, ← List.filterMap_eq_map]
  rfl

theorem FunctionDef.filterMap_about_paramEmissions (depth : Nat) (qs : List Param) :
    (paramEmissions depth qs).filterMap Emission.about =
      (qs.map Node.param).map fun n => (n, n.headline) := by
  unfold paramEmissions
  split
  · rename_i empty
    rw [List.isEmpty_iff.mp empty]
    rfl
  · rw [List.filterMap_cons_none rfl, List.filterMap_flatMap, List.map_map, List.map_eq_flatMap]
    simp only [Node.filterMap_about_emissions, Node.nodes_param]
    rfl

/-- Each node has its line, and the other lines are headings. -/
theorem Program.filterMap_about_emissions (p : Program) :
    p.emissions.filterMap Emission.about = (Node.program p).nodes.map fun n => (n, n.headline) := by
  have first (depth : Nat) (n : Node) (others : List Emission) :
      (⟨depth, none, n.headline, some n⟩ :: others : List Emission).filterMap Emission.about =
        (n, n.headline) :: others.filterMap Emission.about := rfl
  rw [nodes_eq, emissions, FunctionDef.emissions, first, first, List.filterMap_append,
    List.filterMap_cons_none rfl, FunctionDef.filterMap_about_paramEmissions, List.filterMap_flatMap]
  simp only [Node.filterMap_about_emissions, List.map_cons, List.map_append, List.map_flatMap]

/-- The parameters and the leaves are what a program has of either kind. -/
theorem Program.filter_nodes (p : Program) :
    (Node.program p).nodes.filter (fun n => n.isParam || n.isLeaf) =
      p.function.params.map .param ++ p.leaves.map (·.node) := by
  have params : (p.function.params.map Node.param).filter (fun n => n.isParam || n.isLeaf) =
      p.function.params.map .param := by
    simp [Node.isParam]
  rw [map_node_leaves, nodes_eq, List.filter_cons_of_neg Bool.false_ne_true,
    List.filter_cons_of_neg Bool.false_ne_true, List.filter_append, params]
  congr 1
  refine List.filter_congr fun n mem => ?_
  obtain ⟨s, -, mem⟩ := List.mem_flatMap.mp mem
  have inside := Node.inBody_of_mem_nodes rfl mem
  cases n with
  | param q => cases inside
  | program | function | stmt | varDecl | expr => rfl

/-- **Leaves.** `p.leaves` has every leaf of the program once, and in source order. A
walk with entries for the parameters and for the leaves, and defaults for all other
nodes, records each parameter once, and then each leaf once, in this order. Those
lines of the outline that are about parameters or leaves are, one by one and in the
same order, about the same ones, and show their types, names and literals. -/
theorem Program.walk_reaches_outlined_leaves (p : Program) :
    (p.leaves.Pairwise Site.Before ∧
      ∀ x : Site, x ∈ p.leaves ↔
        (Node.program p).at? .plain x.address = some (x.role, x.node) ∧ x.node.isLeaf = true) ∧
    (∀ (α : Type) (param : Param → List α) (number : Int64 → Span → List α)
        (boolean : Bool → Span → List α) (var : String → Span → List α),
      ({ param, number, boolean, var } : Walk α).onProgram p =
        p.function.params.flatMap param ++
          p.leaves.flatMap fun x => x.node.recordLeaf number boolean var) ∧
    (Printer.print p).emitted.map Emission.bare = p.outline.map OutlineLine.emission ∧
    ((Printer.print p).emitted.filterMap Emission.about).filter
        (fun line => line.1.isParam || line.1.isLeaf) =
      p.function.params.map (fun q => (.param q, "Parameter: " ++ q.type.text ++ " " ++ q.name)) ++
        p.leaves.map fun x => (x.node, x.node.headline) := by
  refine ⟨⟨?_, ?_⟩, ?_, ?_, ?_⟩
  · exact (Node.pairwise_preorder .plain (.program p)).filter _
  · intro x
    rw [leaves, List.mem_filter, Node.mem_preorder]
  · intro α param number boolean var
    exact Walk.onProgram_eq param number boolean var p
  · rw [Printer.emitted_print, map_bare_emissions]
  · rw [Printer.emitted_print, filterMap_about_emissions, List.filter_map]
    show ((Node.program p).nodes.filter fun n => n.isParam || n.isLeaf).map _ = _
    rw [filter_nodes, List.map_append, List.map_map, List.map_map]
    rfl

end Scopewise
