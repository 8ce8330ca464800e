/-
Constant folding.

A check computes the expressions whose leaves are all known integers. It
computes in 64-bit words, from the bottom up, and goes on with zero behind a
division by zero. `Expr.check_folds` says what it computes, and which divisions
it reports: it reports those that it computes and that have a zero divisor,
be it one that came about by another such division.

The results are those of the integers as far as words allow
(`folding_exact_modulo_word`). Without division they are the exact ones modulo
2^64, however often they left the range on the way. With division they are the
exact ones as long as every intermediate result is in range.
-/

import Mathlib.Data.Int.ModEq
import Scopewise.Proofs.Adequacy
import Scopewise.Proofs.TypeCascade

namespace Scopewise

open Diagnostics Table

/-! ### Computing an expression -/

/-- The exact result of an operator. A quotient is truncated toward zero, and
zero if the divisor is. -/
def Operator.exact : Operator → Int → Int → Int
  | .plus, left, right => left + right
  | .minus, left, right => left - right
  | .times, left, right => left * right
  | .divide, left, right => if right = 0 then 0 else left.tdiv right

/-- The result of an operator on words: the exact one, brought back to 64
bits. -/
def Operator.wrapped (op : Operator) (left right : Int64) : Int64 :=
  Int64.ofInt (op.exact left.toInt right.toInt)

namespace Expr

/-- Computes an expression from its leaves, the operands before the operation. -/
def evaluate {α : Type} (leaf : Expr → α) (apply : Operator → α → α → α) : Expr → α
  | .binary left op right _ => apply op (left.evaluate leaf apply) (right.evaluate leaf apply)
  | e => leaf e

/-- The integer that a leaf is known to stand for. A variable stands for the
integer that is stored in it, whatever its type. -/
def integer? (t : Table) : Expr → Option Int64
  | .number value _ => some value
  | .var name _ => (t.value? name).bind Constant.toInt?
  | .boolean .. | .binary .. => none

/-- Every leaf of the expression stands for a known integer. -/
def known (t : Table) (e : Expr) : Bool := e.leaves.all fun leaf => (leaf.integer? t).isSome

/-- The value of an expression in words. It means something if the leaves are
known. -/
def wrapped (t : Table) : Expr → Int64 :=
  evaluate (fun leaf => (leaf.integer? t).getD 0) Operator.wrapped

/-- A division that is computed and has a zero divisor. -/
def faults (t : Table) : Expr → Bool
  | e@(.binary _ .divide right _) => e.known t && right.wrapped t == 0
  | _ => false

/-- The report of a division by zero. -/
def divisionFault (e : Expr) : Diagnostic where
  kind := .arithmeticFault
  message := "Division by zero"
  span := some e.span

@[simp] theorem known_binary (t : Table) (left : Expr) (op : Operator) (right : Expr)
    (span : Span) : (binary left op right span).known t = (left.known t && right.known t) :=
  List.all_append

end Expr

/-! ### What is folded -/

/-- Words are computed with as the exact results say, apart from the one error. -/
theorem Constant.apply_eq_wrapped (op : Operator) (left right : Int64) :
    Constant.apply op left right =
      if op = .divide ∧ right = 0 then .error .divisionByZero else .ok (op.wrapped left right) := by
  rw [apply_eq_compute?]
  cases op with
  | plus | minus | times => rfl
  | divide =>
      have zero : right.toInt = 0 ↔ right = 0 := by
        rw [← Int64.toInt_zero, Int64.toInt_inj]
      by_cases isZero : right = 0
      · simp [Operator.compute?, isZero]
      · simp [Operator.compute?, Operator.wrapped, Operator.exact, zero, isZero]

section Operations

variable {left right : Option Constant} (op : Operator) (span : Span)

theorem binaryValue_known {l r : Int64} (leftKnown : left.bind Constant.toInt? = some l)
    (rightKnown : right.bind Constant.toInt? = some r) :
    binaryValue left op right span =
      (some (.int (op.wrapped l r)),
        if op = .divide ∧ r = 0 then [Finding.badArithmetic .divisionByZero span] else []) := by
  rw [binaryValue, Constant.fold, leftKnown, rightKnown]
  simp only [Constant.apply_eq_wrapped]
  by_cases fault : op = .divide ∧ r = 0
  · obtain ⟨rfl, rfl⟩ := fault
    simp [Except.map, Operator.wrapped, Operator.exact]
  · simp [fault, Except.map]

theorem binaryValue_unknown
    (unknown : left.bind Constant.toInt? = none ∨ right.bind Constant.toInt? = none) :
    binaryValue left op right span = (none, []) := by
  rw [binaryValue, Constant.fold]
  rcases unknown with unknown | unknown
  · rw [unknown]
  · rw [unknown]
    cases left.bind Constant.toInt? <;> rfl

end Operations

namespace Expr

/-- What an expression is folded to, if all its leaves are known. -/
def folded (t : Table) (e : Expr) : Option Int64 := if e.known t then some (e.wrapped t) else none

/-- The value of an operation and the report about it, from what the operands
are folded to. -/
theorem binaryValue_of_folded {t : Table} {l r : Option Constant} {left right : Expr}
    (leftValue : l.bind Constant.toInt? = left.folded t)
    (rightValue : r.bind Constant.toInt? = right.folded t) (op : Operator) (span : Span) :
    binaryValue l op r span =
      ((binary left op right span).folded t |>.map .int,
        if (binary left op right span).faults t then [divisionFault (binary left op right span)]
        else []) := by
  unfold folded at leftValue rightValue
  by_cases bothKnown : left.known t = true ∧ right.known t = true
  · obtain ⟨leftKnown, rightKnown⟩ := bothKnown
    rw [if_pos leftKnown] at leftValue
    rw [if_pos rightKnown] at rightValue
    have fault : (binary left op right span).faults t = true ↔
        op = .divide ∧ right.wrapped t = 0 := by
      cases op <;> simp [faults, leftKnown, rightKnown]
    rw [binaryValue_known op span leftValue rightValue, folded, known_binary, leftKnown, rightKnown]
    simp only [fault]
    rfl
  · -- Under an unknown operand nothing is computed, so a zero divisor goes unnoticed.
    have unknown : l.bind Constant.toInt? = none ∨ r.bind Constant.toInt? = none := by
      rw [leftValue, rightValue]
      simpa [Classical.or_iff_not_imp_left] using bothKnown
    have hidden : (binary left op right span).known t = false := by
      rw [known_binary, ← Bool.not_eq_true, Bool.and_eq_true]
      exact bothKnown
    have silent : (binary left op right span).faults t = false := by
      cases op <;> simp [faults, hidden]
    rw [binaryValue_unknown op span unknown, folded, hidden, silent]
    rfl

/-- The integer that a check finds for an expression, be it a leaf or not. -/
theorem check_integer (t : Table) (e : Expr) :
    (e.check t).1.value.bind Constant.toInt? = e.folded t := by
  induction e with
  | number value span =>
      simp [check, folded, known, leaves, wrapped, evaluate, integer?, Constant.toInt?]
  | boolean value span => simp [check, folded, known, leaves, integer?, Constant.toInt?]
  | var name span =>
      have value : (checkName t name span).1.value = t.value? name := by
        rw [checkName, value?]
        cases t.lookup? name <;> rfl
      simp only [check, value, folded, known, leaves, wrapped, evaluate, integer?, List.all_cons,
        List.all_nil, Bool.and_true]
      generalize (t.value? name).bind Constant.toInt? = stored
      cases stored <;> rfl
  | binary left op right span ihLeft ihRight =>
      simp only [check, binaryValue_of_folded ihLeft ihRight]
      cases (binary left op right span).folded t <;> rfl

theorem check_value_binary (t : Table) (left : Expr) (op : Operator) (right : Expr) (span : Span) :
    ((binary left op right span).check t).1.value =
      ((binary left op right span).folded t).map .int := by
  simp only [check, binaryValue_of_folded (left.check_integer t) (right.check_integer t)]

/-- The faulty divisions are reported one by one, at their places. -/
theorem check_divisionFaults (t : Table) (e : Expr) :
    ofKinds [.arithmeticFault] (e.check t).2 =
      (e.operations.filter (·.faults t)).map divisionFault := by
  induction e with
  | number value span => rfl
  | boolean value span => rfl
  | var name span => exact ofKinds_eq_nil (checkName_freeOf (by decide) (by decide) t name span)
  | binary left op right span ihLeft ihRight =>
      have type (l r : Ty) : ofKinds [.arithmeticFault] (binaryType l r span).2 = [] :=
        ofKinds_eq_nil (binaryType_freeOf (by decide) l r span)
      simp only [check, operations, ofKinds_append, type, List.append_nil, List.map_append,
        List.filter_append, ihLeft, ihRight,
        binaryValue_of_folded (left.check_integer t) (right.check_integer t)]
      congr 1
      cases fault : (binary left op right span).faults t <;> simp [fault, ofKinds, divisionFault]

end Expr

/-- **Folding.** Whatever the table, an operation has a value just if all leaves
below it are known integers, and then it is what they come to in words. The
divisions that are reported are those with known leaves and a zero divisor, each
once, the operands before the operation. -/
theorem Expr.check_folds (t : Table) (e : Expr) :
    (∀ left op right span, e = .binary left op right span →
        (e.check t).1.value = if e.known t then some (.int (e.wrapped t)) else none) ∧
      ofKinds [.arithmeticFault] (e.check t).2 =
        (e.operations.filter (·.faults t)).map divisionFault := by
  refine ⟨?_, e.check_divisionFaults t⟩
  rintro left op right span rfl
  rw [check_value_binary, folded]
  split <;> rfl

/-- The zero that a check goes on with is a divisor like any other. -/
example (t : Table) (inner outer : Span) :
    ((Expr.binary (.number 7 .unknown) .divide
        (.binary (.number 5 .unknown) .divide (.number 0 .unknown) inner) outer).check t).2 =
      [⟨.arithmeticFault, "Division by zero", some inner, []⟩,
        ⟨.arithmeticFault, "Division by zero", some outer, []⟩] := rfl

/-! ### Exact results -/

namespace Expr

/-- All leaves of the expression are numbers. -/
def Numeric (e : Expr) : Prop := ∀ leaf ∈ e.leaves, ∃ value span, leaf = .number value span

/-- The value of an expression of numbers in the integers. -/
def exact : Expr → Int :=
  evaluate (fun | .number value _ => value.toInt | _ => 0) Operator.exact

theorem numeric_binary {left : Expr} {op : Operator} {right : Expr} {span : Span} :
    (binary left op right span).Numeric ↔ left.Numeric ∧ right.Numeric :=
  List.forall_mem_append

theorem not_numeric_boolean {value : Bool} {span : Span} : ¬ (boolean value span).Numeric := by
  simp [Numeric, leaves]

theorem not_numeric_var {name : String} {span : Span} : ¬ (var name span).Numeric := by
  simp [Numeric, leaves]

theorem Numeric.known {e : Expr} (numeric : e.Numeric) (t : Table) : e.known t = true := by
  rw [Expr.known, List.all_eq_true]
  intro leaf mem
  obtain ⟨value, span, rfl⟩ := numeric leaf mem
  rfl

theorem Numeric.check_value {e : Expr} (numeric : e.Numeric) (t : Table) :
    (e.check t).1.value = some (.int (e.wrapped t)) := by
  cases e with
  | number value span => rfl
  | boolean value span => exact absurd numeric not_numeric_boolean
  | var name span => exact absurd numeric not_numeric_var
  | binary left op right span =>
      rw [check_value_binary, folded, if_pos (numeric.known t)]
      rfl

end Expr

/-- A word is congruent to the integers that are brought back to it, and to no
others. -/
theorem toInt_modEq_iff {n : Int64} {x : Int} : n.toInt ≡ x [ZMOD 2 ^ 64] ↔ n = Int64.ofInt x := by
  rw [eq_comm, Int64.ofInt_eq_iff_bmod_eq_toInt, Int.ModEq]
  constructor
  · intro congruent
    calc x.bmod (2 ^ 64)
      _ = (x % (2 ^ 64 : Nat)).bmod (2 ^ 64) := (Int.emod_bmod x _).symm
      _ = (n.toInt % (2 ^ 64 : Nat)).bmod (2 ^ 64) := by
          rw [show x % (2 ^ 64 : Nat) = n.toInt % (2 ^ 64 : Nat) from congruent.symm]
      _ = n.toInt.bmod (2 ^ 64) := Int.emod_bmod n.toInt _
      _ = n.toInt := n.toInt_bmod
  · intro same
    rw [← same]
    exact Int.bmod_emod

/-- Sums, differences and products can be brought back to words early or late. -/
theorem Operator.wrapped_ofInt {op : Operator} (undivided : op ≠ .divide) (x y : Int) :
    op.wrapped (Int64.ofInt x) (Int64.ofInt y) = Int64.ofInt (op.exact x y) := by
  cases op with
  | plus => simp only [wrapped, exact, Int64.ofInt_add, Int64.ofInt_toInt]
  | minus => simp only [wrapped, exact, Int64.ofInt_sub, Int64.ofInt_toInt]
  | times => simp only [wrapped, exact, Int64.ofInt_mul, Int64.ofInt_toInt]
  | divide => exact absurd rfl undivided

namespace Expr

/-- No operation of the expression is a division. -/
def Undivided (e : Expr) : Prop :=
  ∀ left right span, binary left .divide right span ∉ e.operations

/-- The exact results of all operations are in the range of words, and no divisor
is zero. Numbers are in range anyway. -/
structure Safe (e : Expr) : Prop where
  divisor_ne_zero : ∀ left right span, binary left .divide right span ∈ e.operations →
    right.exact ≠ 0
  inRange : ∀ node ∈ e.operations, -2 ^ 63 ≤ node.exact ∧ node.exact < 2 ^ 63

theorem Undivided.of_subset {e e' : Expr} (undivided : e'.Undivided)
    (sub : e.operations ⊆ e'.operations) : e.Undivided :=
  fun left right span mem => undivided left right span (sub mem)

theorem Safe.of_subset {e e' : Expr} (safe : e'.Safe) (sub : e.operations ⊆ e'.operations) :
    e.Safe where
  divisor_ne_zero left right span mem := safe.divisor_ne_zero left right span (sub mem)
  inRange node mem := safe.inRange node (sub mem)

section Operands

variable (left : Expr) (op : Operator) (right : Expr) (span : Span)

theorem left_operations : left.operations ⊆ (binary left op right span).operations := by
  intro node mem
  simp [operations, mem]

theorem right_operations : right.operations ⊆ (binary left op right span).operations := by
  intro node mem
  simp [operations, mem]

theorem self_operations : binary left op right span ∈ (binary left op right span).operations := by
  simp [operations]

end Operands

/-- Without division it is enough to bring the exact value back to words in the
end. -/
theorem wrapped_eq_ofInt_exact (t : Table) {e : Expr} (numeric : e.Numeric)
    (undivided : e.Undivided) : e.wrapped t = Int64.ofInt e.exact := by
  induction e with
  | number value span => exact (Int64.ofInt_toInt value).symm
  | boolean value span => exact absurd numeric not_numeric_boolean
  | var name span => exact absurd numeric not_numeric_var
  | binary left op right span ihLeft ihRight =>
      obtain ⟨leftNumeric, rightNumeric⟩ := numeric_binary.mp numeric
      have leftUndivided := undivided.of_subset (left_operations left op right span)
      have rightUndivided := undivided.of_subset (right_operations left op right span)
      have notDivide : op ≠ .divide := by
        rintro rfl
        exact undivided left right span (self_operations left .divide right span)
      calc (binary left op right span).wrapped t
        _ = op.wrapped (left.wrapped t) (right.wrapped t) := rfl
        _ = op.wrapped (Int64.ofInt left.exact) (Int64.ofInt right.exact) := by
            rw [ihLeft leftNumeric leftUndivided, ihRight rightNumeric rightUndivided]
        _ = Int64.ofInt (op.exact left.exact right.exact) := Operator.wrapped_ofInt notDivide _ _

/-- As long as everything is in range, words lose nothing. -/
theorem Safe.toInt_wrapped (t : Table) {e : Expr} (safe : e.Safe) (numeric : e.Numeric) :
    (e.wrapped t).toInt = e.exact := by
  induction e with
  | number value span => rfl
  | boolean value span => exact absurd numeric not_numeric_boolean
  | var name span => exact absurd numeric not_numeric_var
  | binary left op right span ihLeft ihRight =>
      obtain ⟨leftNumeric, rightNumeric⟩ := numeric_binary.mp numeric
      have leftSafe := safe.of_subset (left_operations left op right span)
      have rightSafe := safe.of_subset (right_operations left op right span)
      have fits := safe.inRange _ (self_operations left op right span)
      calc ((binary left op right span).wrapped t).toInt
        _ = (Int64.ofInt (op.exact (left.wrapped t).toInt (right.wrapped t).toInt)).toInt := rfl
        _ = (Int64.ofInt (op.exact left.exact right.exact)).toInt := by
            rw [ihLeft leftSafe leftNumeric, ihRight rightSafe rightNumeric]
        _ = op.exact left.exact right.exact := Int64.toInt_ofInt_of_le fits.1 fits.2

/-- As long as everything is in range, no divisor is zero in words either. -/
theorem Safe.not_faults (t : Table) {e : Expr} (safe : e.Safe) (numeric : e.Numeric) :
    ∀ node ∈ e.operations, node.faults t = false := by
  induction e with
  | number value span => nofun
  | boolean value span => nofun
  | var name span => nofun
  | binary left op right span ihLeft ihRight =>
      obtain ⟨leftNumeric, rightNumeric⟩ := numeric_binary.mp numeric
      have leftSafe := safe.of_subset (left_operations left op right span)
      have rightSafe := safe.of_subset (right_operations left op right span)
      intro node mem
      simp only [operations, List.mem_append, List.mem_singleton] at mem
      rcases mem with (inLeft | inRight) | rfl
      · exact ihLeft leftSafe leftNumeric node inLeft
      · exact ihRight rightSafe rightNumeric node inRight
      · cases op with
        | plus | minus | times => rfl
        | divide =>
            have nonzero : right.wrapped t ≠ 0 := by
              intro zero
              apply safe.divisor_ne_zero left right span (self_operations left .divide right span)
              rw [← rightSafe.toInt_wrapped t rightNumeric, zero]
              rfl
            simp [faults, nonzero]

end Expr

/-- Division of words: the quotient is the exact one, apart from the one that is
out of range. -/
theorem Constant.fold_divide {l r : Int64} (nonzero : r ≠ 0) :
    ∃ q, Constant.fold (some (.int l)) .divide (some (.int r)) = .ok (some (.int q)) ∧
      if l = .minValue ∧ r = -1 then q = .minValue else q.toInt = l.toInt.tdiv r.toInt := by
  refine ⟨l / r, ?_, ?_⟩
  · simp [fold, toInt?, apply, nonzero, Except.map]
  · split
    next outOfRange =>
      rw [outOfRange.1, outOfRange.2]
      exact Int64.minValue_div_neg_one
    next inRange =>
      by_cases least : l = .minValue
      · exact Int64.toInt_div_of_ne_right l r fun minusOne => inRange ⟨least, minusOne⟩
      · exact Int64.toInt_div_of_ne_left l r least

/-- **Folding is exact modulo 2^64.** An expression of numbers without division
is folded to the one word that is congruent to its exact value, so congruent
expressions are folded to the same. With division, as long as all results are in
range and no divisor is zero, it is folded to its exact value, and no fault is
reported. A single division gives the truncated quotient, except for the one
quotient that is out of range. -/
theorem folding_exact_modulo_word (t : Table) :
    (∀ e : Expr, e.Numeric → e.Undivided →
      ∃ n, (e.check t).1.value = some (.int n) ∧ n.toInt ≡ e.exact [ZMOD 2 ^ 64] ∧
        ∀ m : Int64, m.toInt ≡ e.exact [ZMOD 2 ^ 64] → m = n) ∧
    (∀ e e' : Expr, e.Numeric → e.Undivided → e'.Numeric → e'.Undivided →
      e.exact ≡ e'.exact [ZMOD 2 ^ 64] → (e.check t).1.value = (e'.check t).1.value) ∧
    (∀ e : Expr, e.Numeric → e.Safe →
      ∃ n, (e.check t).1.value = some (.int n) ∧ n.toInt = e.exact ∧
        ∀ d ∈ (e.check t).2, d.kind ≠ .arithmeticFault) ∧
    (∀ l r : Int64, r ≠ 0 →
      ∃ q, Constant.fold (some (.int l)) .divide (some (.int r)) = .ok (some (.int q)) ∧
        if l = .minValue ∧ r = -1 then q = .minValue else q.toInt = l.toInt.tdiv r.toInt) := by
  refine ⟨?_, ?_, ?_, fun l r nonzero => Constant.fold_divide nonzero⟩
  · intro e numeric undivided
    have congruent := toInt_modEq_iff.mpr (e.wrapped_eq_ofInt_exact t numeric undivided)
    refine ⟨e.wrapped t, numeric.check_value t, congruent, ?_⟩
    intro m same
    rw [toInt_modEq_iff.mp same, e.wrapped_eq_ofInt_exact t numeric undivided]
  · intro e e' numeric undivided numeric' undivided' congruent
    have same : e.wrapped t = e'.wrapped t := by
      rw [e'.wrapped_eq_ofInt_exact t numeric' undivided', ← toInt_modEq_iff]
      exact (toInt_modEq_iff.mpr (e.wrapped_eq_ofInt_exact t numeric undivided)).trans congruent
    rw [numeric.check_value t, numeric'.check_value t, same]
  · intro e numeric safe
    refine ⟨e.wrapped t, numeric.check_value t, safe.toInt_wrapped t numeric, ?_⟩
    have none : ofKinds [.arithmeticFault] (e.check t).2 = [] := by
      rw [e.check_divisionFaults, List.filter_eq_nil_iff.mpr, List.map_nil]
      intro node mem
      rw [safe.not_faults t numeric node mem]
      exact Bool.false_ne_true
    intro d mem fault
    rw [ofKinds, List.filter_eq_nil_iff] at none
    exact none d mem (by simp [fault])

/-- The square of the greatest word. -/
def Expr.overflowing : Expr :=
  .binary (.number .maxValue .unknown) .times (.number .maxValue .unknown) .unknown

/-- `-7 / 2 * 3` -/
def Expr.truncating : Expr :=
  .binary (.binary (.number (-7) .unknown) .divide (.number 2 .unknown) .unknown) .times
    (.number 3 .unknown) .unknown

/-- A product far out of range is folded to the word that is congruent to it, and
a quotient that is not exact to what is left of it. -/
theorem folding_exact_modulo_word_edges :
    (Expr.overflowing.Numeric ∧ Expr.overflowing.Undivided ∧
      ∃ n, (Expr.overflowing.check .new).1.value = some (.int n) ∧
        n.toInt ≡ (2 ^ 63 - 1) * (2 ^ 63 - 1) [ZMOD 2 ^ 64]) ∧
    (Expr.truncating.Numeric ∧ Expr.truncating.Safe ∧
      ∃ n, (Expr.truncating.check .new).1.value = some (.int n) ∧ n.toInt = -9) := by
  have overflowing : Expr.overflowing.Numeric ∧ Expr.overflowing.Undivided := by
    simp [Expr.overflowing, Expr.Numeric, Expr.Undivided, Expr.leaves, Expr.operations]
  have truncating : Expr.truncating.Numeric := by
    simp [Expr.truncating, Expr.Numeric, Expr.leaves]
  have safe : Expr.truncating.Safe := by
    constructor
    · intro left right span mem
      obtain ⟨-, rfl, -⟩ : left = .number (-7) .unknown ∧ right = .number 2 .unknown ∧
          span = .unknown := by
        simpa [Expr.truncating, Expr.operations] using mem
      decide
    · decide
  obtain ⟨congruent, -, exact, -⟩ := folding_exact_modulo_word .new
  obtain ⟨n, value, same, -⟩ := congruent _ overflowing.1 overflowing.2
  obtain ⟨n', value', same', -⟩ := exact _ truncating safe
  exact ⟨⟨overflowing.1, overflowing.2, n, value, same⟩, truncating, safe, n', value', same'⟩

end Scopewise
