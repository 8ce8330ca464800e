/-
The fields of a record in the exchange format.

A record is written as an object with a key for each field, or as a list of its
fields in order. `Fields` describes both forms at once: a field is built by
`Fields.required` or `Fields.optional`, and fields are put together by
`Fields.both` and `Fields.map`.

In an object the entries are decoded in the order in which they stand, so of
several errors the one at the earliest entry is reported. A repeated key is an
error at its second entry, before the value there is looked at. A missing field
is reported behind all entries, the first of them in the order of the fields.
-/

import Scopewise.Exchange.DecodeError

namespace Scopewise

/-- A result, or an error and the number of the entry at which it arises. -/
abbrev Placed (α : Type) := Except (Nat × DecodeError) α

namespace Placed

variable {α β : Type}

/-- Two results, or the earlier of two errors. -/
def both : Placed α → Placed β → Placed (α × β)
  | .ok a, .ok b => .ok (a, b)
  | .ok _, .error e => .error e
  | .error e, .ok _ => .error e
  | .error e, .error e' => .error (if e'.1 < e.1 then e' else e)

/-- Forgets the place of an error. -/
def strip : Placed α → Except DecodeError α
  | .ok a => .ok a
  | .error e => .error e.2

/-- What the fields of an object come to, unless an earlier error lies in its
other entries or at its end. -/
def settle (fields : Placed α) (others closing : Placed Unit) : Except DecodeError α :=
  match fields.both (others.both closing) with
  | .ok (a, _) => .ok a
  | .error e => .error e.2

end Placed

/-- The items of a list that were not taken yet, and how many were. -/
structure Items (β : Type) where
  taken : Nat
  rest : List β
  cut : Option Fault

/-- How the fields of a record are decoded from entries or items that hold
`β`. -/
structure Fields (β α : Type) where
  names : List String
  /-- From the entries of an object. -/
  keyed : List (String × β) → Placed α
  /-- From the items of a list; `short` is the error for too few of them. -/
  listed : (short : Nat → DecodeError) → Items β → Except DecodeError (α × Items β)

namespace Fields

variable {α β γ : Type}

/-- The number of the first entry with key `name`, counted from `place`. -/
def find? (name : String) : (place : Nat) → List (String × β) → Option Nat
  | _, [] => none
  | place, (key, _) :: rest => if key = name then some place else find? name (place + 1) rest

/-- Decodes the entry with key `name`. -/
def entry (name : String) (decode : β → Except DecodeError α) (absent : Placed α) :
    (place : Nat) → List (String × β) → Placed α
  | _, [] => absent
  | place, (key, b) :: rest =>
      if key = name then
        match decode b with
        | .error e => .error (place, e)
        | .ok a =>
            match find? name (place + 1) rest with
            | some again => .error (again, .duplicateField name)
            | none => .ok a
      else entry name decode absent (place + 1) rest

/-- Decodes the next item; `absent` is the answer when there is none. -/
def item (decode : β → Except DecodeError α) (absent : Except DecodeError α) (items : Items β) :
    Except DecodeError (α × Items β) :=
  match items.rest with
  | b :: rest => (decode b).map fun a => (a, { items with taken := items.taken + 1, rest })
  | [] =>
      match items.cut with
      | some f => .error (.text f.read)
      | none => absent.map fun a => (a, items)

/-- A field that has to be there. -/
def required (name : String) (decode : β → Except DecodeError α) : Fields β α where
  names := [name]
  keyed entries := entry name decode (.error (entries.length + 1, .missingField name)) 0 entries
  listed short items := item decode (.error (short items.taken)) items

/-- A field that may be left out. -/
def optional (name : String) (default : α) (decode : β → Except DecodeError α) : Fields β α where
  names := [name]
  keyed entries := entry name decode (.ok default) 0 entries
  listed _ items := item decode (.ok default) items

/-- The fields of `f`, then those of `g`. -/
def both (f : Fields β α) (g : Fields β γ) : Fields β (α × γ) where
  names := f.names ++ g.names
  keyed entries := Placed.both (f.keyed entries) (g.keyed entries)
  listed short items := do
    let (a, items) ← f.listed short items
    let (c, items) ← g.listed short items
    return ((a, c), items)

/-- The same fields, made into something else. -/
def map (build : α → γ) (f : Fields β α) : Fields β γ where
  names := f.names
  keyed entries := (f.keyed entries).map build
  listed short items := (f.listed short items).map fun (a, items) => (build a, items)

end Fields

end Scopewise
