/-
Finite maps from names, kept in name order.

A `NameMap` is a list of entries that is strictly increasing in the names, so
each name occurs once, the entries come out sorted, and two maps that hold the
same are equal (`NameMap.ext_get?`). Names are ordered by code point.
`get?_insert`, `get?_modify` and `get?_map` say what the operations do to a map,
and `All.insert` and `All.modify` what they keep of a property of all entries.
-/

namespace Scopewise

/-- A finite map from names, as a list of entries in strict name order. -/
structure NameMap (α : Type) where
  entries : List (String × α)
  ordered : entries.Pairwise (fun a b => a.1 < b.1)
deriving DecidableEq

namespace NameMap

variable {α β : Type}

/-- The map without entries. -/
def empty : NameMap α := ⟨[], .nil⟩

instance : Inhabited (NameMap α) := ⟨empty⟩

/-- What the first entry with a name holds. -/
def lookupIn? (name : String) : List (String × α) → Option α
  | [] => none
  | e :: rest => if e.1 = name then some e.2 else lookupIn? name rest

/-- What the map holds under a name. -/
def get? (m : NameMap α) (name : String) : Option α := lookupIn? name m.entries

/-- Whether the map has an entry for a name. -/
def contains (m : NameMap α) (name : String) : Bool := (m.get? name).isSome

/-- The names, in order. -/
def names (m : NameMap α) : List String := m.entries.map (·.1)

/-- What the map holds, in the order of the names. -/
def values (m : NameMap α) : List α := m.entries.map (·.2)

def size (m : NameMap α) : Nat := m.entries.length

def isEmpty (m : NameMap α) : Bool := m.entries.isEmpty

/-! ### Insertion -/

/-- Puts an entry at its place in an ordered list, over an entry of the same
name. -/
def insertEntry (name : String) (a : α) : List (String × α) → List (String × α)
  | [] => [(name, a)]
  | e :: rest =>
      if name < e.1 then (name, a) :: e :: rest
      else if e.1 < name then e :: insertEntry name a rest
      else (name, a) :: rest

theorem mem_insertEntry {name : String} {a : α} {e : String × α} {l : List (String × α)}
    (h : e ∈ insertEntry name a l) : e = (name, a) ∨ e ∈ l := by
  induction l with
  | nil => simpa [insertEntry] using h
  | cons d rest ih =>
    rw [insertEntry] at h
    split at h
    · simpa using h
    · split at h
      · rcases List.mem_cons.1 h with rfl | h
        · simp
        · rcases ih h with h | h <;> simp [h]
      · rcases List.mem_cons.1 h with h | h <;> simp [h]

theorem not_lt_not_lt {a b : String} (h₁ : ¬ a < b) (h₂ : ¬ b < a) : a = b :=
  String.le_antisymm (String.not_lt.1 h₂) (String.not_lt.1 h₁)

theorem insertEntry_ordered (name : String) (a : α) {l : List (String × α)}
    (h : l.Pairwise (fun a b => a.1 < b.1)) :
    (insertEntry name a l).Pairwise (fun a b => a.1 < b.1) := by
  induction l with
  | nil => simp [insertEntry]
  | cons d rest ih =>
    have hd := List.pairwise_cons.1 h
    rw [insertEntry]
    split
    case isTrue lt =>
      refine List.pairwise_cons.2 ⟨fun e he => ?_, h⟩
      rcases List.mem_cons.1 he with rfl | he
      · exact lt
      · exact String.lt_trans lt (hd.1 e he)
    case isFalse notLt =>
      split
      case isTrue gt =>
        refine List.pairwise_cons.2 ⟨fun e he => ?_, ih hd.2⟩
        rcases mem_insertEntry he with rfl | he
        · exact gt
        · exact hd.1 e he
      case isFalse notGt =>
        have same : name = d.1 := not_lt_not_lt notLt notGt
        exact List.pairwise_cons.2 ⟨fun e he => same ▸ hd.1 e he, hd.2⟩

/-- Stores `a` under `name`, over what was there. -/
def insert (m : NameMap α) (name : String) (a : α) : NameMap α :=
  ⟨insertEntry name a m.entries, insertEntry_ordered name a m.ordered⟩

/-! ### Changing what is stored -/

/-- Applies `f` to what the map holds under `name`. -/
def modifyEntries (name : String) (f : α → α) (l : List (String × α)) : List (String × α) :=
  l.map fun e => if e.1 = name then (e.1, f e.2) else e

theorem modifyEntries_ordered (name : String) (f : α → α) {l : List (String × α)}
    (h : l.Pairwise (fun a b => a.1 < b.1)) :
    (modifyEntries name f l).Pairwise (fun a b => a.1 < b.1) := by
  refine List.pairwise_map.2 (h.imp ?_)
  intro a b lt
  split <;> split <;> exact lt

/-- Applies `f` to what the map holds under `name`; a name without an entry
changes nothing. -/
def modify (m : NameMap α) (name : String) (f : α → α) : NameMap α :=
  ⟨modifyEntries name f m.entries, modifyEntries_ordered name f m.ordered⟩

/-- Applies `f` to everything that the map holds. -/
def map (f : α → β) (m : NameMap α) : NameMap β :=
  ⟨m.entries.map fun e => (e.1, f e.2), List.pairwise_map.2 m.ordered⟩

/-! ### What a map holds -/

theorem lookupIn?_insertEntry (name key : String) (a : α) (l : List (String × α)) :
    lookupIn? key (insertEntry name a l) = if name = key then some a else lookupIn? key l := by
  induction l with
  | nil => rfl
  | cons d rest ih =>
    rw [insertEntry]
    split
    case isTrue lt => rfl
    case isFalse notLt =>
      split
      case isTrue gt =>
        simp only [lookupIn?, ih]
        by_cases hd : d.1 = key
        · have other : name ≠ key := by
            rintro rfl
            exact String.lt_irrefl _ (hd ▸ gt)
          simp [hd, other]
        · simp [hd]
      case isFalse notGt =>
        have same : name = d.1 := not_lt_not_lt notLt notGt
        simp only [lookupIn?, same]
        split <;> rfl

/-- Insertion changes what is stored under its own name only. -/
theorem get?_insert (m : NameMap α) (name key : String) (a : α) :
    (m.insert name a).get? key = if name = key then some a else m.get? key :=
  lookupIn?_insertEntry name key a m.entries

theorem lookupIn?_modifyEntries (name key : String) (f : α → α) (l : List (String × α)) :
    lookupIn? key (modifyEntries name f l) =
      if name = key then (lookupIn? key l).map f else lookupIn? key l := by
  induction l with
  | nil => simp [modifyEntries, lookupIn?]
  | cons d rest ih =>
    rw [modifyEntries] at ih ⊢
    by_cases hd : d.1 = name <;> by_cases hk : name = key <;> simp_all [lookupIn?]

/-- A change applies to what is stored under its own name only. -/
theorem get?_modify (m : NameMap α) (name key : String) (f : α → α) :
    (m.modify name f).get? key = if name = key then (m.get? key).map f else m.get? key :=
  lookupIn?_modifyEntries name key f m.entries

theorem lookupIn?_map (f : α → β) (key : String) (l : List (String × α)) :
    lookupIn? key (l.map fun e => (e.1, f e.2)) = (lookupIn? key l).map f := by
  induction l with
  | nil => rfl
  | cons d rest ih =>
    rw [List.map_cons, lookupIn?, lookupIn?, ih]
    split <;> rfl

theorem get?_map (f : α → β) (m : NameMap α) (key : String) :
    (m.map f).get? key = (m.get? key).map f :=
  lookupIn?_map f key m.entries

@[simp] theorem get?_empty (key : String) : (empty : NameMap α).get? key = none := rfl

theorem lookupIn?_eq_some_iff {l : List (String × α)}
    (h : l.Pairwise (fun a b => a.1 < b.1)) {name : String} {a : α} :
    lookupIn? name l = some a ↔ (name, a) ∈ l := by
  induction l with
  | nil => simp [lookupIn?]
  | cons d rest ih =>
    have hd := List.pairwise_cons.1 h
    rw [lookupIn?, List.mem_cons]
    by_cases hk : d.1 = name
    · have out : (name, a) ∉ rest := fun mem => by
        have lt := hd.1 (name, a) mem
        exact String.lt_irrefl name (hk ▸ lt)
      simp [hk, out, Prod.ext_iff, eq_comm]
    · simp [hk, ih hd.2, Prod.ext_iff, Ne.symm hk]

/-- The entries of a map are what it holds. -/
theorem get?_eq_some_iff {m : NameMap α} {name : String} {a : α} :
    m.get? name = some a ↔ (name, a) ∈ m.entries :=
  lookupIn?_eq_some_iff m.ordered

theorem eq_of_mem_iff {l₁ l₂ : List (String × α)}
    (h₁ : l₁.Pairwise (fun a b => a.1 < b.1)) (h₂ : l₂.Pairwise (fun a b => a.1 < b.1))
    (same : ∀ e, e ∈ l₁ ↔ e ∈ l₂) : l₁ = l₂ := by
  induction l₁ generalizing l₂ with
  | nil =>
    cases l₂ with
    | nil => rfl
    | cons b r₂ => exact absurd ((same b).2 (by simp)) (by simp)
  | cons a r₁ ih =>
    cases l₂ with
    | nil => exact absurd ((same a).1 (by simp)) (by simp)
    | cons b r₂ =>
      have ha := List.pairwise_cons.1 h₁
      have hb := List.pairwise_cons.1 h₂
      have heads : a = b := by
        rcases List.mem_cons.1 ((same a).1 (by simp)) with h | inRest
        · exact h
        rcases List.mem_cons.1 ((same b).2 (by simp)) with h | inRest'
        · exact h.symm
        exact absurd (ha.1 b inRest') (String.lt_asymm (hb.1 a inRest))
      subst heads
      refine congrArg (a :: ·) (ih ha.2 hb.2 fun e => ?_)
      have notSelf : ∀ r : List (String × α), (∀ e ∈ r, a.1 < e.1) → a ∉ r :=
        fun r lt mem => String.lt_irrefl _ (lt a mem)
      have := same e
      simp only [List.mem_cons] at this
      constructor
      · intro mem
        rcases this.1 (.inr mem) with rfl | h
        · exact absurd mem (notSelf _ ha.1)
        · exact h
      · intro mem
        rcases this.2 (.inr mem) with rfl | h
        · exact absurd mem (notSelf _ hb.1)
        · exact h

/-- Two maps that hold the same are equal. -/
theorem ext_get? {m n : NameMap α} (h : ∀ name, m.get? name = n.get? name) : m = n := by
  have entries : m.entries = n.entries :=
    eq_of_mem_iff m.ordered n.ordered fun (name, a) => by
      rw [← get?_eq_some_iff, ← get?_eq_some_iff, h]
  cases m
  cases n
  simpa using entries

/-- A change of what is stored under a name stores the changed entry. -/
theorem modify_eq_insert {m : NameMap α} {name : String} {a : α} (found : m.get? name = some a)
    (f : α → α) : m.modify name f = m.insert name (f a) := by
  refine ext_get? fun key => ?_
  rw [get?_modify, get?_insert]
  split
  next same => rw [← same, found, Option.map_some]
  next => rfl

theorem modify_eq_self {m : NameMap α} {name : String} (absent : m.get? name = none) (f : α → α) :
    m.modify name f = m := by
  refine ext_get? fun key => ?_
  rw [get?_modify]
  split
  next same => rw [← same, absent, Option.map_none]
  next => rfl

/-! ### Properties of all entries -/

/-- Every entry of the map has the property `P`. -/
def All (P : String → α → Prop) (m : NameMap α) : Prop :=
  ∀ name a, m.get? name = some a → P name a

theorem all_empty (P : String → α → Prop) : (empty : NameMap α).All P := nofun

theorem All.insert {P : String → α → Prop} {m : NameMap α} (all : m.All P) {name : String} {a : α}
    (new : P name a) : (m.insert name a).All P := by
  intro key b found
  rw [get?_insert] at found
  split at found
  next same =>
    subst same
    cases found
    exact new
  next => exact all key b found

theorem All.modify {P : String → α → Prop} {m : NameMap α} (all : m.All P) {name : String}
    {f : α → α} (changed : ∀ a, m.get? name = some a → P name (f a)) : (m.modify name f).All P := by
  intro key b found
  rw [get?_modify] at found
  split at found
  next same =>
    subst same
    obtain ⟨a, held, rfl⟩ := Option.map_eq_some_iff.mp found
    exact changed a held
  next => exact all key b found

end NameMap

end Scopewise
