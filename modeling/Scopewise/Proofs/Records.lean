/-
What the fields of a record come to.

`Fields.Means` says what it takes for fields to be decoded successfully: a
relation between what stands at their names and the result. The meaning is the
same for an object and for a list. `Fields.required` and `Fields.optional` have
the meanings `Grammar.Needs` and `Grammar.Allows`, and meanings are put together
as fields are.

`Decode.Accepts` says that a decoder agrees with a relation of the grammar. A
record agrees with the meaning of its fields (`accepts_record`). The parts of a node
are set aside before they are decoded; `Keeps` says when that succeeds.

All of this is about documents of values, which have no faults, and about objects
without repeated keys.
-/

import Scopewise.Exchange.Decode
import Scopewise.Proofs.Grammar

namespace Scopewise

variable {α β γ : Type}

/-! ### Results -/

theorem Placed.both_eq_ok_iff {x : Placed α} {y : Placed γ} {c : α × γ} :
    x.both y = .ok c ↔ x = .ok c.1 ∧ y = .ok c.2 := by
  obtain ⟨a, b⟩ := c
  cases x <;> cases y <;> simp [Placed.both]

theorem Placed.settle_eq_ok_iff {fields : Placed α} {others closing : Placed Unit} {a : α} :
    fields.settle others closing = .ok a ↔
      fields = .ok a ∧ others = .ok () ∧ closing = .ok () := by
  have found : fields.settle others closing = .ok a ↔
      fields.both (others.both closing) = .ok (a, (), ()) := by
    unfold Placed.settle
    split <;> simp_all
  rw [found, Placed.both_eq_ok_iff, Placed.both_eq_ok_iff]

theorem Placed.strip_eq_ok_iff {x : Placed α} {a : α} : x.strip = .ok a ↔ x = .ok a := by
  cases x <;> simp [Placed.strip]

theorem Except.bind_eq_ok_iff {ε : Type} {x : Except ε α} {f : α → Except ε γ} {c : γ} :
    (x >>= f) = .ok c ↔ ∃ a, x = .ok a ∧ f a = .ok c := by
  cases x <;> simp [bind, Except.bind]

theorem Except.map_eq_ok_iff {ε : Type} {x : Except ε α} {f : α → γ} {c : γ} :
    x.map f = .ok c ↔ ∃ a, x = .ok a ∧ f a = c := by
  cases x <;> simp [Except.map]

namespace Fields

open Grammar

@[simp] theorem names_required (name : String) (decode : β → Except DecodeError α) :
    (required name decode).names = [name] := rfl

@[simp] theorem names_optional (name : String) (default : α) (decode : β → Except DecodeError α) :
    (optional name default decode).names = [name] := rfl

@[simp] theorem names_both (f : Fields β α) (g : Fields β γ) :
    (f.both g).names = f.names ++ g.names := rfl

/-! ### Entries with distinct keys -/

theorem find?_eq_none {name : String} {entries : List (String × β)}
    (absent : name ∉ entries.map Prod.fst) (place : Nat) : find? name place entries = none := by
  induction entries generalizing place with
  | nil => rfl
  | cons e rest ih =>
      obtain ⟨key, b⟩ := e
      simp only [List.map_cons, List.mem_cons, not_or] at absent
      simp [find?, Ne.symm absent.1, ih absent.2]

/-- Without repeated keys an entry is decoded by itself. -/
theorem entry_eq_ok_iff {name : String} {decode : β → Except DecodeError α} {absent : Placed α}
    {entries : List (String × β)} (distinct : (entries.map Prod.fst).Nodup) (place : Nat) {a : α} :
    entry name decode absent place entries = .ok a ↔
      (entries.lookup name = none ∧ absent = .ok a) ∨
        ∃ b, entries.lookup name = some b ∧ decode b = .ok a := by
  induction entries generalizing place with
  | nil => simp [entry]
  | cons e rest ih =>
      obtain ⟨key, b⟩ := e
      obtain ⟨fresh, distinct⟩ := List.nodup_cons.mp distinct
      by_cases same : key = name
      · subst same
        have once := find?_eq_none fresh (place + 1)
        cases found : decode b <;> simp [entry, found, once]
      · have other : (name == key) = false := beq_eq_false_iff_ne.mpr (Ne.symm same)
        simp [entry, same, List.lookup_cons, other, ih distinct]

/-- Entries whose values are decoded from `doc`. -/
theorem lookup_map {doc : γ → β} (name : String) (entries : List (String × γ)) :
    (entries.map fun e => (e.1, doc e.2)).lookup name = (entries.lookup name).map doc := by
  induction entries with
  | nil => rfl
  | cons e rest ih =>
      obtain ⟨key, c⟩ := e
      simp only [List.map_cons, List.lookup_cons, ih]
      cases name == key <;> rfl

theorem lookup_eq_some_iff_mem {name : String} {v : γ} {entries : List (String × γ)}
    (distinct : (entries.map Prod.fst).Nodup) :
    entries.lookup name = some v ↔ (name, v) ∈ entries := by
  induction entries with
  | nil => simp
  | cons e rest ih =>
      obtain ⟨key, c⟩ := e
      obtain ⟨fresh, distinct⟩ := List.nodup_cons.mp distinct
      by_cases same : name = key
      · subst same
        have absent : (name, v) ∉ rest := fun h => fresh (List.mem_map.mpr ⟨(name, v), h, rfl⟩)
        simp [absent, eq_comm]
      · have other : (name == key) = false := beq_eq_false_iff_ne.mpr same
        simp [List.lookup_cons, other, same, ih distinct]

theorem mem_of_lookup {name : String} {v : γ} {entries : List (String × γ)}
    (found : entries.lookup name = some v) : (name, v) ∈ entries := by
  obtain ⟨before, after, rfl, -⟩ := List.lookup_eq_some_iff.mp found
  simp

/-! ### Meanings -/

/-- `f` is decoded successfully exactly if `Held` relates what stands at its names
to the result. The parts are documents `doc v` of values `v` with `Good v`. -/
structure Means (Good : Json → Prop) (doc : Json → β) (f : Fields β α)
    (Held : (String → Option Json) → α → Prop) : Prop where
  /-- Only what stands at the names matters. -/
  congr {slot slot' : String → Option Json} : (∀ name ∈ f.names, slot name = slot' name) →
    ∀ a, Held slot a → Held slot' a
  keyed {entries : List (String × Json)} : (entries.map Prod.fst).Nodup →
    (∀ e ∈ entries, Good e.2) → ∀ a,
      f.keyed (entries.map fun e => (e.1, doc e.2)) = .ok a ↔ Held (entries.lookup ·) a
  listed {items : List Json} : (∀ v ∈ items, Good v) →
    ∀ (short : Nat → DecodeError) (taken : Nat) (a : α) (rest : Items β),
      f.listed short ⟨taken, items.map doc, none⟩ = .ok (a, rest) ↔
        Held (items[f.names.idxOf ·]?) a ∧
          rest = ⟨taken + min f.names.length items.length,
            (items.drop f.names.length).map doc, none⟩

variable {Good : Json → Prop} {doc : Json → β}

/-- The next item of a list. -/
theorem item_eq_ok_iff {decode : β → Except DecodeError α} {absent : Except DecodeError α}
    {items : List Json} {taken : Nat} {a : α} {rest : Items β} :
    item decode absent ⟨taken, items.map doc, none⟩ = .ok (a, rest) ↔
      ((items[0]?.map doc = none ∧ absent = .ok a) ∨
          ∃ b, items[0]?.map doc = some b ∧ decode b = .ok a) ∧
        rest = ⟨taken + min 1 items.length, (items.drop 1).map doc, none⟩ := by
  cases items with
  | nil => cases absent <;> simp [item, Except.map, eq_comm]
  | cons v items => cases h : decode (doc v) <;> simp [item, Except.map, h, eq_comm]

section Leaves

variable {IsA : Json → α → Prop} {decode : β → Except DecodeError α}
  (decoded : ∀ v, Good v → ∀ a, decode (doc v) = .ok a ↔ IsA v a)
include decoded

/-- A part and its decoder agree, wherever the part comes from. -/
theorem part_iff {Absent : Prop} {part : Option Json} {a : α} (good : ∀ v ∈ part, Good v) :
    (part.map doc = none ∧ Absent ∨ ∃ b, part.map doc = some b ∧ decode b = .ok a) ↔
      part = none ∧ Absent ∨ Needs IsA part a := by
  cases part with
  | none => simp [needs_iff]
  | some v => simp [needs_iff, decoded v (good v rfl)]

variable (name : String)

/-- A field of its own, found under its key or as the next item. `Absent` is what
it comes to where it is left out. -/
theorem means_leaf {f : Fields β α} {Absent : α → Prop} (names : f.names = [name])
    (keyed : ∀ entries, ∃ absent, f.keyed entries = entry name decode absent 0 entries ∧
      ∀ a, absent = .ok a ↔ Absent a)
    (listed : ∀ short items, ∃ absent, f.listed short items = item decode absent items ∧
      ∀ a, absent = .ok a ↔ Absent a) :
    Means Good doc f fun slot a => (slot name = none ∧ Absent a) ∨ Needs IsA (slot name) a where
  congr same a := by
    rw [same name (by simp [names])]
    exact id
  keyed {entries} distinct good a := by
    obtain ⟨absent, found, absent_iff⟩ := keyed (entries.map fun e => (e.1, doc e.2))
    have distinct' : ((entries.map fun e => (e.1, doc e.2)).map Prod.fst).Nodup := by
      simpa [List.map_map, Function.comp_def] using distinct
    rw [found, entry_eq_ok_iff distinct', lookup_map, absent_iff]
    exact part_iff decoded (fun v h => good (name, v) (mem_of_lookup h))
  listed {items} good short taken a rest := by
    obtain ⟨absent, found, absent_iff⟩ := listed short ⟨taken, items.map doc, none⟩
    have here : f.names.idxOf name = 0 := by simp [names]
    beta_reduce
    rw [found, item_eq_ok_iff, absent_iff, here, names]
    exact and_congr_left fun _ => part_iff decoded fun v h => good v (List.mem_of_getElem? h)

theorem means_required :
    Means Good doc (required name decode) fun slot a => Needs IsA (slot name) a := by
  have leaf : Means Good doc (required name decode)
      fun slot a => slot name = none ∧ False ∨ Needs IsA (slot name) a :=
    means_leaf decoded name rfl (fun entries => ⟨_, rfl, by simp⟩)
      fun short items => ⟨_, rfl, by simp⟩
  simpa using leaf

theorem means_optional (default : α) :
    Means Good doc (optional name default decode)
      fun slot a => Allows IsA default (slot name) a := by
  have leaf : Means Good doc (optional name default decode)
      fun slot a => slot name = none ∧ a = default ∨ Needs IsA (slot name) a :=
    means_leaf decoded name rfl (fun entries => ⟨_, rfl, by simp [eq_comm]⟩)
      fun short items => ⟨_, rfl, by simp [eq_comm]⟩
  simpa only [allows_iff] using leaf

end Leaves

variable {f : Fields β α} {g : Fields β γ} {Held : (String → Option Json) → α → Prop}
  {Held' : (String → Option Json) → γ → Prop}

theorem Means.both (first : Means Good doc f Held) (second : Means Good doc g Held')
    (disjoint : ∀ name ∈ g.names, name ∉ f.names) :
    Means Good doc (f.both g) fun slot c => Held slot c.1 ∧ Held' slot c.2 where
  congr same c := by
    rintro ⟨held, held'⟩
    exact ⟨first.congr (fun name h => same name (List.mem_append_left _ h)) _ held,
      second.congr (fun name h => same name (List.mem_append_right _ h)) _ held'⟩
  keyed distinct good c := by
    simp only [Fields.both, Placed.both_eq_ok_iff, first.keyed distinct good,
      second.keyed distinct good]
  listed {items} good short taken c rest := by
    -- `g` goes on where `f` stopped, so its names count from there.
    have later : ∀ v ∈ items.drop f.names.length, Good v :=
      fun v h => good v (List.mem_of_mem_drop h)
    have inFirst : ∀ name ∈ f.names,
        items[f.names.idxOf name]? = items[(f.both g).names.idxOf name]? := by
      intro name h
      rw [Fields.both, List.idxOf_append_of_mem h]
    have inSecond : ∀ name ∈ g.names,
        (items.drop f.names.length)[g.names.idxOf name]? =
          items[(f.both g).names.idxOf name]? := by
      intro name h
      rw [Fields.both, List.idxOf_append_of_notMem (disjoint name h), List.getElem?_drop]
    have size : min f.names.length items.length +
        min g.names.length (items.drop f.names.length).length =
          min (f.both g).names.length items.length := by
      simp only [Fields.both, List.length_drop, List.length_append]
      omega
    have behind : (items.drop f.names.length).drop g.names.length =
        items.drop (f.both g).names.length := by
      rw [Fields.both, List.drop_drop, List.length_append]
    simp only [Fields.both, Except.bind_eq_ok_iff, Prod.exists, first.listed good]
    constructor
    · rintro ⟨a, _, ⟨held, rfl⟩, c, rest', found, done⟩
      obtain ⟨held', rfl⟩ := (second.listed later _ _ _ _).mp found
      cases done
      refine ⟨⟨first.congr inFirst _ held, second.congr inSecond _ held'⟩, ?_⟩
      rw [behind, Nat.add_assoc, size]
      rfl
    · rintro ⟨⟨held, held'⟩, rfl⟩
      refine ⟨c.1, _, ⟨first.congr (fun name h => (inFirst name h).symm) _ held, rfl⟩, c.2, _,
        (second.listed later _ _ _ _).mpr
          ⟨second.congr (fun name h => (inSecond name h).symm) _ held', rfl⟩, ?_⟩
      rw [behind, Nat.add_assoc, size]
      rfl

theorem Means.map (means : Means Good doc f Held) (build : α → γ) :
    Means Good doc (f.map build) fun slot c => ∃ a, Held slot a ∧ build a = c where
  congr same c := by
    rintro ⟨a, held, rfl⟩
    exact ⟨a, means.congr same a held, rfl⟩
  keyed distinct good c := by
    simp only [Fields.map, Except.map_eq_ok_iff, means.keyed distinct good]
  listed {items} good short taken c rest := by
    simp only [Fields.map, Except.map_eq_ok_iff, Prod.exists, means.listed good, Prod.mk.injEq]
    constructor
    · rintro ⟨a, _, ⟨held, rfl⟩, rfl, rfl⟩
      exact ⟨⟨a, held, rfl⟩, rfl⟩
    · rintro ⟨⟨a, held, rfl⟩, rfl⟩
      exact ⟨a, _, ⟨held, rfl⟩, rfl, rfl⟩

/-- Fields made into something that holds nothing but them. -/
theorem Means.mapParts (means : Means Good doc f Held) {build : α → γ} (parts : γ → α)
    (inverse : ∀ a c, build a = c ↔ a = parts c) :
    Means Good doc (f.map build) fun slot c => Held slot (parts c) := by
  have mapped := means.map build
  simpa only [inverse, exists_eq_right] using mapped

end Fields

namespace Doc

theorem ofItems_eq_map (items : List Json) : ofItems items = items.map ofJson := by
  induction items with
  | nil => rfl
  | cons item rest ih => rw [ofItems, ih, List.map_cons]

theorem ofEntries_eq_map (entries : List (String × Json)) :
    ofEntries entries = entries.map fun e => (e.1, ofJson e.2) := by
  induction entries with
  | nil => rfl
  | cons e rest ih =>
      obtain ⟨key, value⟩ := e
      rw [ofEntries, ih, List.map_cons]

end Doc

namespace Decode

open Doc Grammar

/-- **Acceptance.** On documents of values without repeated keys `decode` gives
exactly the results that `IsA` describes. -/
def Accepts (decode : Doc → Except DecodeError α) (IsA : Json → α → Prop) : Prop :=
  ∀ v : Json, v.Distinct → ∀ a, decode (ofJson v) = .ok a ↔ IsA v a

/-! ### Records -/

section Parts

variable {decode : Doc → Except DecodeError α} {IsA : Json → α → Prop}

theorem Accepts.required (accepts : Accepts decode IsA) (name : String) :
    (Fields.required name decode).Means Json.Distinct ofJson
      fun slot a => Needs IsA (slot name) a :=
  Fields.means_required accepts name

theorem Accepts.optional (accepts : Accepts decode IsA) (name : String) (default : α) :
    (Fields.optional name default decode).Means Json.Distinct ofJson
      fun slot a => Allows IsA default (slot name) a :=
  Fields.means_optional accepts name default

end Parts

theorem passOthers_ofEntries (names : List String) (place : Nat) (entries : List (String × Json)) :
    passOthers names place (ofEntries entries) = .ok () := by
  induction entries generalizing place with
  | nil => rfl
  | cons e rest ih =>
      obtain ⟨key, value⟩ := e
      simp only [ofEntries, passOthers, skip_ofJson, ih, ite_self]

theorem closeItems_eq_ok_iff {reading : Reading} {taken : Nat} {items : List β} :
    closeItems reading ⟨taken, items, none⟩ = .ok () ↔ items = [] := by
  cases items with
  | nil => simp [closeItems, close]
  | cons item rest => cases reading <;> simp [closeItems]

/-- A record is decoded as its fields mean, however it is read. -/
theorem accepts_record {f : Fields Doc α} {Held : (String → Option Json) → α → Prop}
    (means : f.Means Json.Distinct ofJson Held) (recordName : String) (reading : Reading) :
    Accepts (record recordName f reading)
      fun v a => ∃ slot, v.Record f.names slot ∧ Held slot a := by
  intro v distinct a
  cases distinct with
  | null | bool | int | double | str =>
      constructor
      · intro decoded
        cases decoded
      · rintro ⟨slot, ⟨⟩, -⟩
  | @arr items distinct =>
      have fits : (items.drop f.names.length).map ofJson = [] ↔
          items.length ≤ f.names.length := by
        rw [List.map_eq_nil_iff, List.drop_eq_nil_iff]
      simp only [ofJson, ofItems_eq_map, record, Except.bind_eq_ok_iff, Prod.exists,
        means.listed distinct]
      constructor
      · rintro ⟨a, _, ⟨held, rfl⟩, ⟨⟩, closed, done⟩
        cases done
        exact ⟨_, .listed (fits.mp (closeItems_eq_ok_iff.mp closed)), held⟩
      · rintro ⟨_, ⟨⟩ | short, held⟩
        exact ⟨a, _, ⟨held, rfl⟩, (), closeItems_eq_ok_iff.mpr (fits.mpr short), rfl⟩
  | @obj entries distinct values =>
      have found := means.keyed distinct values a
      rw [← ofEntries_eq_map] at found
      simp only [ofJson, record, Placed.settle_eq_ok_iff, passOthers_ofEntries, closeEntries,
        and_true, found]
      constructor
      · intro held
        exact ⟨_, .keyed entries, held⟩
      · rintro ⟨_, ⟨⟩ | _, held⟩
        exact held

/-! ### Nodes -/

/-- What has to be set aside of a node can be set aside: in text that is just being
read it must not nest too deeply. -/
def Keeps (reading : Reading) (entries : List (String × Json)) : Prop :=
  reading = .streamed → ∀ e ∈ entries, e.1 ≠ "span" → e.2.nesting ≤ maxNesting - stmtLevel

theorem keeps_cons {reading : Reading} {key : String} {value : Json}
    {entries : List (String × Json)} :
    Keeps reading ((key, value) :: entries) ↔
      (¬ (key = "span" ∨ reading ≠ .streamed) → value.nesting ≤ maxNesting - stmtLevel) ∧
        Keeps reading entries := by
  simp only [Keeps, List.forall_mem_cons]
  tauto

theorem keepOthers_eq_ok_iff {reading : Reading} {enc : Json → β} {doc : β → Doc}
    (document : ∀ v, doc (enc v) = ofJson v) (place : Nat) (entries : List (String × Json)) :
    keepOthers reading doc place (entries.map fun e => (e.1, enc e.2)) = .ok () ↔
      Keeps reading entries := by
  induction entries generalizing place with
  | nil => simp [keepOthers, Keeps]
  | cons e rest ih =>
      obtain ⟨key, value⟩ := e
      rw [keeps_cons, ← ih (place + 1)]
      by_cases aside : key = "span" ∨ reading ≠ .streamed
      · simp [keepOthers, aside]
      · by_cases fits : value.nesting ≤ maxNesting - stmtLevel <;>
          simp [keepOthers, aside, document, keep_ofJson, fits]

theorem known_eq_ok_iff {find? : String → Option α} {names : List String} {name : String} {a : α} :
    known find? names name = .ok a ↔ find? name = some a := by
  unfold known
  cases find? name <;> simp

/-- A kind is given by its name or by its number. -/
theorem nodeKind_eq_ok_iff {kinds : List (String × γ)} (distinct : (kinds.map Prod.fst).Nodup)
    {v : Json} {c : γ} :
    nodeKind kinds (ofJson v) = .ok c ↔
      ∃ (i : Nat) (name : String), kinds[i]? = some (name, c) ∧ (v = .str name ∨ v = .int i) := by
  cases v with
  | null | bool | double | arr | obj => simp [ofJson, nodeKind, mismatch]
  | str s =>
      have named : kinds.lookup s = some c ↔ ∃ i : Nat, kinds[i]? = some (s, c) := by
        rw [Fields.lookup_eq_some_iff_mem distinct, List.mem_iff_getElem?]
      simp [ofJson, nodeKind, known_eq_ok_iff, named]
  | int n =>
      by_cases negative : n < 0
      · have none (i : Nat) : n ≠ i := by omega
        simp [ofJson, nodeKind, negative, mismatch, none]
      · obtain ⟨i, rfl⟩ := Int.eq_ofNat_of_zero_le (Int.not_lt.mp negative)
        have same (j : Nat) : (i : Int) = j ↔ j = i := by omega
        cases found : kinds[i]? with
        | none => simp [ofJson, nodeKind, negative, same, found]
        | some kind =>
            obtain ⟨name, d⟩ := kind
            simp [ofJson, nodeKind, negative, same, found]

end Decode

end Scopewise
