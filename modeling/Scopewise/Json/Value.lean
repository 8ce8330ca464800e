/-
JSON values.

An object is a list of entries in the order in which they are written; nothing
forbids a repeated key. `Json.nesting` is the number of arrays and objects
around the innermost value, and `Json.sorted` puts the keys of every object in
order, as a reader does that keeps objects as maps.
-/

import Scopewise.Json.Double

namespace Scopewise

/-- A JSON value. Numbers without fraction and exponent are integers. -/
inductive Json where
  | null
  | bool (value : Bool)
  | int (value : Int)
  | double (value : Double)
  | str (value : String)
  | arr (items : List Json)
  | obj (entries : List (String × Json))
deriving Repr, Inhabited

namespace Json

mutual

/-- The number of arrays and objects on the deepest path into the value. -/
def nesting : Json → Nat
  | .arr items => nestingItems items + 1
  | .obj entries => nestingEntries entries + 1
  | _ => 0

/-- The deepest nesting among items. -/
def nestingItems : List Json → Nat
  | [] => 0
  | item :: rest => max item.nesting (nestingItems rest)

/-- The deepest nesting among the values of entries. -/
def nestingEntries : List (String × Json) → Nat
  | [] => 0
  | (_, value) :: rest => max value.nesting (nestingEntries rest)

end

/-- Puts an entry at its place among entries in key order, unless its key is
there already. -/
def insertEntry (key : String) (value : Json) : List (String × Json) → List (String × Json)
  | [] => [(key, value)]
  | (k, v) :: rest =>
      if key < k then (key, value) :: (k, v) :: rest
      else if k < key then (k, v) :: insertEntry key value rest
      else (k, v) :: rest

mutual

/-- The value with the keys of every object in code point order. Of entries
with one key the last stays. -/
def sorted : Json → Json
  | .arr items => .arr (sortedItems items)
  | .obj entries => .obj (sortedEntries entries)
  | other => other

def sortedItems : List Json → List Json
  | [] => []
  | item :: rest => item.sorted :: sortedItems rest

def sortedEntries : List (String × Json) → List (String × Json)
  | [] => []
  | (key, value) :: rest => insertEntry key value.sorted (sortedEntries rest)

end

/-- The first value under a key of an object. -/
def get? (key : String) : Json → Option Json
  | .obj entries => entries.lookup key
  | _ => none

end Json

end Scopewise
