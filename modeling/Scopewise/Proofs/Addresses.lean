/-
Nodes of a program tree and their addresses.

The pieces of a program are the nodes of one tree (`Node`). `Node.children` says
what stands directly below a node, in source order, and which part it plays there.
An address is the way down to a node, as the numbers of the children that it
passes, and `Node.at?` follows it.

Addresses are compared like words in a dictionary: a node comes before everything
below it, and everything below one child before the next child. `Node.preorder`
lists a tree in this order. It has every node once, at its own address
(`mem_preorder`), and nothing is out of order (`pairwise_preorder`), so there is
no other such list.
-/

import Mathlib.Data.List.Basic
import Scopewise.Tree.Outline

namespace Scopewise

/-! ### Nodes -/

/-- A piece of a program tree that has a place of its own. -/
inductive Node where
  | program (p : Program)
  | function (f : FunctionDef)
  | param (p : Param)
  | stmt (s : Stmt)
  | varDecl (v : VarDecl)
  | expr (e : Expr)
deriving DecidableEq, Repr

namespace Node

/-- The nodes directly below a node, in source order, with the parts that they
play there. -/
def children : Node → List (Role × Node)
  | .program p => [(.plain, .function p.function)]
  | .function f =>
      f.params.map (fun q => (.plain, .param q)) ++ f.body.map fun s => (.plain, .stmt s)
  | .stmt (.declaration _ vars _) => vars.map fun v => (.plain, .varDecl v)
  | .stmt (.assignment _ value _) => [(.stored, .expr value)]
  | .stmt (.ret (some value) _) => [(.plain, .expr value)]
  | .stmt (.expr e _) => [(.plain, .expr e)]
  | .varDecl { init := some value, .. } => [(.stored, .expr value)]
  | .expr (.binary left _ right _) => [(.left, .expr left), (.right, .expr right)]
  | .stmt (.ret none _) | .param _ | .varDecl { init := none, .. }
  | .expr (.number ..) | .expr (.boolean ..) | .expr (.var ..) => []

theorem sizeOf_lt_of_mem_children {n : Node} {child : Role × Node} (mem : child ∈ n.children) :
    sizeOf child.2 < sizeOf n := by
  match n with
  | .program ⟨_, _⟩ =>
      cases List.mem_singleton.mp mem
      simp +arith
  | .function ⟨_, _, _, _, _⟩ =>
      rcases List.mem_append.mp mem with mem | mem
      · obtain ⟨q, among, rfl⟩ := List.mem_map.mp mem
        have smaller := List.sizeOf_lt_of_mem among
        simp +arith at smaller ⊢
        omega
      · obtain ⟨s, among, rfl⟩ := List.mem_map.mp mem
        have smaller := List.sizeOf_lt_of_mem among
        simp +arith at smaller ⊢
        omega
  | .stmt (.declaration ..) =>
      obtain ⟨v, among, rfl⟩ := List.mem_map.mp mem
      have smaller := List.sizeOf_lt_of_mem among
      simp +arith at smaller ⊢
      omega
  | .stmt (.assignment ..) | .stmt (.ret (some _) _) | .stmt (.expr ..) | .varDecl ⟨_, some _, _⟩ =>
      cases List.mem_singleton.mp mem
      simp +arith
  | .expr (.binary ..) =>
      rcases List.mem_pair.mp mem with rfl | rfl
      · simp +arith
      · simp +arith

/-- What holds of a node whenever it holds of its children holds of every node. -/
@[elab_as_elim]
theorem induction {P : Node → Prop} (step : ∀ n, (∀ child ∈ n.children, P child.2) → P n)
    (n : Node) : P n :=
  step n fun child _ => induction step child.2
termination_by sizeOf n
decreasing_by exact sizeOf_lt_of_mem_children ‹_›

/-- The node at an address below a node that plays a given part. -/
def at? (role : Role) (n : Node) : List Nat → Option (Role × Node)
  | [] => some (role, n)
  | i :: rest => n.children[i]?.bind fun child => child.2.at? child.1 rest

end Node

/-! ### Preorder -/

/-- A node in its place: where it is, which part it plays there, and what it is. -/
structure Site where
  address : List Nat
  role : Role
  node : Node
deriving DecidableEq, Repr

namespace Site

/-- Source order: addresses are compared number by number, and a node comes before
what is below it. -/
def Before (x y : Site) : Prop := List.Lex (· < ·) x.address y.address

/-- The same place, seen from above the child numbered `i`. -/
def under (i : Nat) (x : Site) : Site := { x with address := i :: x.address }

/-- The places of several trees, seen from above: their roots are the children
numbered from `i` on. -/
def underFrom (i : Nat) : List (List Site) → List Site
  | [] => []
  | first :: others => first.map (under i) ++ underFrom (i + 1) others

theorem mem_map_under {i : Nat} {group : List Site} {x : Site} :
    x ∈ group.map (under i) ↔
      ∃ rest, x.address = i :: rest ∧ { x with address := rest } ∈ group := by
  rw [List.mem_map]
  constructor
  · rintro ⟨y, mem, rfl⟩
    exact ⟨y.address, rfl, mem⟩
  · rintro ⟨rest, address, mem⟩
    exact ⟨_, mem, by rw [under, ← address]⟩

theorem mem_underFrom {i : Nat} {groups : List (List Site)} {x : Site} :
    x ∈ underFrom i groups ↔
      ∃ j rest group, x.address = (i + j) :: rest ∧ groups[j]? = some group ∧
        { x with address := rest } ∈ group := by
  induction groups generalizing i with
  | nil => simp [underFrom]
  | cons first others ih =>
      rw [underFrom, List.mem_append, mem_map_under, ih]
      constructor
      · rintro (⟨rest, address, mem⟩ | ⟨j, rest, group, address, found, mem⟩)
        · exact ⟨0, rest, first, address, rfl, mem⟩
        · refine ⟨j + 1, rest, group, ?_, found, mem⟩
          rw [address, ← Nat.add_assoc, Nat.add_right_comm]
      · rintro ⟨j, rest, group, address, found, mem⟩
        cases j with
        | zero =>
            cases found
            exact .inl ⟨rest, address, mem⟩
        | succ j =>
            refine .inr ⟨j, rest, group, ?_, found, mem⟩
            rw [address, ← Nat.add_assoc, Nat.add_right_comm]

/-- Trees that are listed in order are so one behind the other. -/
theorem pairwise_underFrom {i : Nat} {groups : List (List Site)}
    (ordered : ∀ group ∈ groups, group.Pairwise Before) :
    (underFrom i groups).Pairwise Before := by
  induction groups generalizing i with
  | nil => exact .nil
  | cons first others ih =>
      rw [List.forall_mem_cons] at ordered
      rw [underFrom, List.pairwise_append, List.pairwise_map]
      refine ⟨ordered.1.imp fun before => ?_, ih ordered.2, ?_⟩
      · exact .cons before
      · intro x inFirst y inOthers
        obtain ⟨rest, address, -⟩ := mem_map_under.mp inFirst
        obtain ⟨j, rest', -, address', -, -⟩ := mem_underFrom.mp inOthers
        rw [Before, address, address']
        exact .rel (by omega)

end Site

namespace Node

open Site

/-- A node that plays a given part and everything below it, in source order. -/
def preorder (role : Role) (n : Node) : List Site :=
  ⟨[], role, n⟩ ::
    underFrom 0 (n.children.attach.map fun child => child.val.2.preorder child.val.1)
termination_by sizeOf n
decreasing_by exact sizeOf_lt_of_mem_children child.property

theorem preorder_eq (role : Role) (n : Node) :
    n.preorder role =
      ⟨[], role, n⟩ :: underFrom 0 (n.children.map fun child => child.2.preorder child.1) := by
  rw [preorder]
  congr 2
  exact List.attach_map_val (f := fun child : Role × Node => child.2.preorder child.1)

/-- A tree is listed in the order of its addresses. -/
theorem pairwise_preorder (role : Role) (n : Node) :
    (n.preorder role).Pairwise Before := by
  induction n using Node.induction generalizing role with
  | step n ih =>
      rw [preorder_eq, List.pairwise_cons]
      constructor
      · intro x mem
        obtain ⟨j, rest, -, address, -, -⟩ := mem_underFrom.mp mem
        rw [Before, address]
        exact .nil
      · refine pairwise_underFrom ?_
        rw [List.forall_mem_map]
        intro child mem
        exact ih child mem child.1

/-- The list of a tree has what there is in the tree, at its address. -/
theorem mem_preorder {role : Role} {n : Node} {x : Site} :
    x ∈ n.preorder role ↔ n.at? role x.address = some (x.role, x.node) := by
  induction n using Node.induction generalizing role x with
  | step n ih =>
      obtain ⟨address, role', node⟩ := x
      rw [preorder_eq, List.mem_cons, mem_underFrom]
      cases address with
      | nil => simp [at?, eq_comm]
      | cons i rest =>
          simp only [at?, Option.bind_eq_some_iff]
          constructor
          · rintro (root | ⟨j, rest', group, address, found, mem⟩)
            · cases root
            · simp only [Nat.zero_add, List.cons.injEq] at address
              obtain ⟨rfl, rfl⟩ := address
              rw [List.getElem?_map, Option.map_eq_some_iff] at found
              obtain ⟨child, found, rfl⟩ := found
              exact ⟨child, found, (ih child (List.mem_of_getElem? found)).mp mem⟩
          · rintro ⟨child, found, reached⟩
            refine .inr ⟨i, rest, child.2.preorder child.1, by simp, ?_, ?_⟩
            · rw [List.getElem?_map, found, Option.map_some]
            · exact (ih child (List.mem_of_getElem? found)).mpr reached

/-- The nodes of a tree in source order, without their places. -/
def nodes (n : Node) : List Node := (n.preorder .plain).map (·.node)

theorem map_node_preorder (role : Role) (n : Node) :
    (n.preorder role).map (·.node) = n.nodes := by
  rw [nodes, preorder_eq, preorder_eq]
  rfl

theorem nodes_eq (n : Node) : n.nodes = n :: n.children.flatMap fun child => child.2.nodes := by
  have forget (i : Nat) (groups : List (List Site)) :
      (underFrom i groups).map (·.node) = groups.flatMap (List.map (·.node)) := by
    induction groups generalizing i with
    | nil => rfl
    | cons first others ih =>
        rw [underFrom, List.map_append, List.map_map, ih]
        rfl
  rw [nodes, preorder_eq, List.map_cons, forget, List.flatMap_map]
  simp only [map_node_preorder]

theorem nodes_param (q : Param) : (Node.param q).nodes = [.param q] := by
  rw [nodes_eq]
  rfl

/-- The statements and what is below them. -/
def inBody : Node → Bool
  | .stmt _ | .varDecl _ | .expr _ => true
  | .program _ | .function _ | .param _ => false

theorem inBody_of_mem_nodes {n m : Node} (inside : n.inBody = true) (mem : m ∈ n.nodes) :
    m.inBody = true := by
  have inherited {n : Node} (inside : n.inBody = true) :
      ∀ child ∈ n.children, child.2.inBody = true := by
    unfold children
    split <;> simp [inBody] at inside ⊢
  induction n using Node.induction with
  | step n ih =>
      rw [nodes_eq, List.mem_cons, List.mem_flatMap] at mem
      rcases mem with rfl | ⟨child, below, mem⟩
      · exact inside
      · exact ih child below (inherited inside child below) mem

end Node

theorem Program.nodes_eq (p : Program) :
    (Node.program p).nodes =
      .program p :: .function p.function ::
        (p.function.params.map .param ++ p.function.body.flatMap fun s => (Node.stmt s).nodes) := by
  rw [Node.nodes_eq, Node.children, List.flatMap_singleton, Node.nodes_eq, Node.children,
    List.flatMap_append, List.flatMap_map, List.flatMap_map, List.map_eq_flatMap]
  simp only [Node.nodes_param]

theorem Program.countP_inBody (p : Program) :
    (Node.program p).nodes.countP Node.inBody =
      (p.function.body.flatMap fun s => (Node.stmt s).nodes).length := by
  have params : (p.function.params.map Node.param).countP Node.inBody = 0 := by
    simp [Node.inBody]
  have body : (p.function.body.flatMap fun s => (Node.stmt s).nodes).countP Node.inBody =
      (p.function.body.flatMap fun s => (Node.stmt s).nodes).length := by
    rw [List.countP_eq_length]
    intro n mem
    obtain ⟨s, -, mem⟩ := List.mem_flatMap.mp mem
    exact Node.inBody_of_mem_nodes rfl mem
  rw [nodes_eq, List.countP_cons_of_neg Bool.false_ne_true,
    List.countP_cons_of_neg Bool.false_ne_true, List.countP_append, params, body, Nat.zero_add]

end Scopewise
