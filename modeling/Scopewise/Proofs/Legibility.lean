/-
Writings that can be read back.

What is written out is a list: of characters, or of lines. A piece of it is
`Legible` if the list leaves no doubt about it. Where two pieces are written at
the start of one list they are the same piece, apart from what the writing does
not show, and the same list is left behind them. Most pieces have no mark at
their end, so this can only be asked where something follows that ends them.

A run of characters of one class is legible (`legible_run`), and lists of
legible pieces are, one behind the other (`Legible.flatMap`) or with separators
(`Legible.intercalate`), if it can be told whether one more piece follows.
Programs are written without their spans, and `Program.withoutSpans` is what is
left of them to be read back.
-/

import Scopewise.Proofs.Relabelling

namespace Scopewise

/-! ### Legible pieces -/

section Legible

variable {α β σ : Type}

/-- Two proper pieces at the start of one list look the same to `view`, and have
the same list behind them, if what is behind them ends them. -/
structure Legible (Proper : α → Prop) (write : α → List σ) (view : α → β)
    (Ends : List σ → Prop) : Prop where
  cancel : ∀ {a b : α} {rest rest' : List σ}, Proper a → Proper b → Ends rest → Ends rest' →
    write a ++ rest = write b ++ rest' → view a = view b ∧ rest = rest'

/-- The list does not go on with a character of the class. -/
def Stops (p : σ → Bool) (rest : List σ) : Prop := ∀ c ∈ rest.head?, p c = false

theorem stops_cons {p : σ → Bool} {c : σ} (other : p c = false) (rest : List σ) :
    Stops p (c :: rest) := by
  rintro _ ⟨⟩
  exact other

theorem takeWhile_run {p : σ → Bool} {run rest : List σ} (all : ∀ c ∈ run, p c = true)
    (stops : Stops p rest) : (run ++ rest).takeWhile p = run := by
  rw [List.takeWhile_append_of_pos all]
  cases rest with
  | nil => simp
  | cons c rest => simp [stops c rfl]

theorem dropWhile_run {p : σ → Bool} {run rest : List σ} (all : ∀ c ∈ run, p c = true)
    (stops : Stops p rest) : (run ++ rest).dropWhile p = rest := by
  rw [List.dropWhile_append_of_pos all]
  cases rest with
  | nil => rfl
  | cons c rest => simp [stops c rfl]

/-- A run of characters of one class reaches up to the first other one. -/
theorem legible_run (p : σ → Bool) :
    Legible (fun run => ∀ c ∈ run, p c = true) id id (Stops p) := by
  constructor
  intro run run' rest rest' all all' stops stops' same
  constructor
  · rw [id, id, ← takeWhile_run all stops, ← takeWhile_run all' stops']
    exact congrArg _ same
  · rw [← dropWhile_run all stops, ← dropWhile_run all' stops']
    exact congrArg _ same

/-- A piece that ends in a mark of its own may have anything behind it. -/
theorem legible_marked [DecidableEq σ] (mark : σ) :
    Legible (fun run => mark ∉ run) (fun run => run ++ [mark]) id (fun _ => True) := by
  constructor
  intro run run' rest rest' unmarked unmarked' _ _ same
  have others : ∀ {run : List σ}, mark ∉ run → ∀ c ∈ run, (c != mark) = true := by
    intro run unmarked c mem
    rw [bne_iff_ne]
    rintro rfl
    exact unmarked mem
  have stops (rest : List σ) : Stops (· != mark) (mark :: rest) := stops_cons (by simp) rest
  simp only [List.append_assoc, List.singleton_append] at same
  obtain ⟨runs, rests⟩ := (legible_run (· != mark)).cancel (others unmarked) (others unmarked')
    (stops rest) (stops rest') same
  exact ⟨runs, (List.cons.inj rests).2⟩

namespace Legible

variable {Proper : α → Prop} {write : α → List σ} {view : α → β} {Ends Closes : List σ → Prop}

/-- The same may stand before every piece. -/
theorem behind (legible : Legible Proper write view Ends) (before : List σ) :
    Legible Proper (fun a => before ++ write a) view Ends := by
  constructor
  intro a b rest rest' proper proper' ends ends' same
  simp only [List.append_assoc, List.append_cancel_left_eq] at same
  exact legible.cancel proper proper' ends ends' same

/-- Pieces one behind the other, if what closes the list is no further piece. -/
theorem flatMap (legible : Legible Proper write view Ends)
    (closes : ∀ {rest}, Closes rest → Ends rest)
    (goesOn : ∀ {a}, Proper a → ∀ rest, Ends (write a ++ rest) ∧ ¬ Closes (write a ++ rest)) :
    Legible (fun as : List α => ∀ a ∈ as, Proper a) (List.flatMap write) (List.map view)
      Closes := by
  have ends : ∀ {as : List α} {rest}, (∀ a ∈ as, Proper a) → Closes rest →
      Ends (as.flatMap write ++ rest) := by
    intro as rest proper closed
    cases as with
    | nil => exact closes closed
    | cons a as =>
        rw [List.flatMap_cons, List.append_assoc]
        exact (goesOn (proper a (by simp)) _).1
  constructor
  intro as
  induction as with
  | nil =>
      intro bs rest rest' _ proper' closed _ same
      cases bs with
      | nil => exact ⟨rfl, same⟩
      | cons b bs =>
          rw [List.flatMap_nil, List.nil_append, List.flatMap_cons, List.append_assoc] at same
          exact absurd (same ▸ closed) (goesOn (proper' b (by simp)) _).2
  | cons a as ih =>
      intro bs rest rest' proper proper' closed closed' same
      cases bs with
      | nil =>
          rw [List.flatMap_nil, List.nil_append, List.flatMap_cons, List.append_assoc] at same
          exact absurd (same ▸ closed') (goesOn (proper a (by simp)) _).2
      | cons b bs =>
          rw [List.forall_mem_cons] at proper proper'
          simp only [List.flatMap_cons, List.append_assoc] at same
          obtain ⟨first, others⟩ := legible.cancel proper.1 proper'.1 (ends proper.2 closed)
            (ends proper'.2 closed') same
          obtain ⟨views, rests⟩ := ih proper.2 proper'.2 closed closed' others
          exact ⟨by rw [List.map_cons, List.map_cons, first, views], rests⟩

theorem intercalate_cons (separator first : List σ) (others : List (List σ)) :
    separator.intercalate (first :: others) = first ++ others.flatMap (separator ++ ·) := by
  induction others generalizing first with
  | nil => simp
  | cons next others ih => rw [List.intercalate_cons_cons, ih]; simp

/-- Pieces with separators between them. An empty list is told from others by
what closes it. -/
theorem intercalate (legible : Legible Proper write view Ends) {separator : List σ}
    (closes : ∀ {rest}, Closes rest → Ends rest)
    (separates : ∀ rest, Ends (separator ++ rest) ∧ ¬ Closes (separator ++ rest))
    (opens : ∀ {a}, Proper a → ∀ rest, ¬ Closes (write a ++ rest)) :
    Legible (fun as : List α => ∀ a ∈ as, Proper a)
      (fun as => separator.intercalate (as.map write)) (List.map view) Closes := by
  have others : Legible (fun as : List α => ∀ a ∈ as, Proper a)
      (List.flatMap fun a => separator ++ write a) (List.map view) Closes := by
    refine (legible.behind separator).flatMap closes ?_
    intro a _ rest
    rw [List.append_assoc]
    exact separates _
  have ends : ∀ {as : List α} {rest}, Closes rest →
      Ends ((as.flatMap fun a => separator ++ write a) ++ rest) := by
    intro as rest closed
    cases as with
    | nil => exact closes closed
    | cons a as =>
        rw [List.flatMap_cons, List.append_assoc, List.append_assoc]
        exact (separates _).1
  have split (a : α) (as : List α) : separator.intercalate ((a :: as).map write) =
      write a ++ as.flatMap fun a => separator ++ write a := by
    rw [List.map_cons, intercalate_cons, List.flatMap_map]
  constructor
  intro as bs rest rest' proper proper' closed closed' same
  cases as with
  | nil =>
      cases bs with
      | nil => exact ⟨rfl, by simpa using same⟩
      | cons b bs =>
          rw [split, List.append_assoc, List.map_nil, List.intercalate_nil,
            List.nil_append] at same
          exact absurd (same ▸ closed) (opens (proper' b (by simp)) _)
  | cons a as =>
      cases bs with
      | nil =>
          rw [split, List.append_assoc, List.map_nil, List.intercalate_nil,
            List.nil_append] at same
          exact absurd (same ▸ closed') (opens (proper a (by simp)) _)
      | cons b bs =>
          rw [List.forall_mem_cons] at proper proper'
          rw [split, split, List.append_assoc, List.append_assoc] at same
          obtain ⟨first, behind⟩ :=
            legible.cancel proper.1 proper'.1 (ends closed) (ends closed') same
          obtain ⟨views, rests⟩ := others.cancel proper.2 proper'.2 closed closed' behind
          exact ⟨by rw [List.map_cons, List.map_cons, first, views], rests⟩

end Legible

end Legible

/-! ### Spellings -/

theorem TypeName.text_injective {a b : TypeName} (same : a.text = b.text) : a = b := by
  have spelled := congrArg ofText? same
  rw [ofText?_text, ofText?_text] at spelled
  exact Option.some.inj spelled

/-- A natural number is written with digits. -/
theorem isDigit_of_mem_repr {n : Nat} {c : Char} (mem : c ∈ n.repr.toList) : c.isDigit = true := by
  rw [Nat.toList_repr] at mem
  exact Nat.isDigit_of_mem_toDigits (by decide) (by decide) mem

/-- The digits of a natural number can be read back. -/
theorem eq_of_repr_eq {m n : Nat} (same : m.repr = n.repr) : m = n := by
  have digits : Nat.toDigits 10 m = Nat.toDigits 10 n := by
    rw [← Nat.toList_repr, ← Nat.toList_repr, same]
  calc m = Nat.ofDigitChars 10 (Nat.toDigits 10 m) 0 := Nat.ofDigitChars_ten_toDigits.symm
    _ = Nat.ofDigitChars 10 (Nat.toDigits 10 n) 0 := by rw [digits]
    _ = n := Nat.ofDigitChars_ten_toDigits

/-- A sign is no digit. -/
theorem repr_ne_signed (m n : Nat) : m.repr ≠ "-" ++ n.repr := by
  intro same
  have digit : '-'.isDigit = true := isDigit_of_mem_repr (n := m) (by simp [same])
  cases digit

theorem Constant.text_int_injective {m n : Int64}
    (same : (Constant.int m).text = (Constant.int n).text) : m = n := by
  apply Int64.toInt_inj.mp
  rw [Constant.text, Constant.text, Int.toString_eq_repr, Int.toString_eq_repr, Int.repr_eq_if,
    Int.repr_eq_if] at same
  split at same <;> split at same
  · have magnitudes := eq_of_repr_eq same
    omega
  · exact absurd same (repr_ne_signed _ _)
  · exact absurd same.symm (repr_ne_signed _ _)
  · have magnitudes := eq_of_repr_eq ((String.append_right_inj _).mp same)
    omega

theorem Constant.text_bool_injective {a b : Bool}
    (same : (Constant.bool a).text = (Constant.bool b).text) : a = b := by
  cases a <;> cases b <;> simp [Constant.text] at same ⊢

/-- A number is written with digits, and perhaps a sign. -/
theorem Constant.mem_text_int {n : Int64} {c : Char} (mem : c ∈ (Constant.int n).text.toList) :
    c.isDigit = true ∨ c = '-' := by
  rw [Constant.text, Int.toString_eq_repr, Int.repr_eq_if] at mem
  split at mem
  · exact .inl (isDigit_of_mem_repr mem)
  · rw [String.toList_append, List.mem_append] at mem
    rcases mem with sign | mem
    · exact .inr (by simpa using sign)
    · exact .inl (isDigit_of_mem_repr mem)

/-! ### What is read back of a program -/

/-- Every position becomes the unknown one. -/
def Relabelling.unplaced : Relabelling where
  position _ := .unknown

@[simp] theorem Relabelling.unplaced_name (name : String) : unplaced.name name = name := rfl

/-- A program with all its spans ignored. -/
def Program.withoutSpans (p : Program) : Program := p.map .unplaced

/-- All names of a program: those of the function, of its parameters, and of
what its statements read and write. -/
def Program.names (p : Program) : List String :=
  p.function.name ::
    (p.function.params.map (·.name) ++ p.function.body.flatMap fun s => s.reads ++ s.writes)

end Scopewise
