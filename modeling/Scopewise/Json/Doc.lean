/-
Documents: JSON text as far as it can be read.

Text that is not JSON is still read up to the place where it breaks off. A
`Doc` is what was read, with a `Fault` at that place, so that whoever decodes a
document meets its faults in text order, after everything that stands before
them.

What a fault means depends on how the text is looked at. A value that is read
for its content is held to stricter rules than one that is skipped, and a place
where only a name may stand does not look into numbers and words. A `Fault`
therefore records three answers.

`Doc.ofJson` is the document of a value, without faults. `Doc.skip` and
`Doc.keep` are the two ways of passing over a document without decoding it: the
document of a value can always be skipped, and it can be kept exactly if it does
not nest too deeply (`keep_ofJson`).
-/

import Scopewise.Json.Value

namespace Scopewise

/-- How a text fails to be JSON. -/
inductive Breach where
  /-- The text stops too early. -/
  | ended
  /-- The text goes on with something that cannot stand there. -/
  | malformed
deriving DecidableEq, Repr

/-- What a broken place means to the different ways of looking at it. -/
structure Fault where
  /-- When the value is read for its content. -/
  read : Breach
  /-- When the value is skipped; `none` if it can be skipped unharmed. -/
  skipped : Option Breach
  /-- When only a name may stand there. -/
  named : Breach
deriving DecidableEq, Repr

namespace Fault

/-- A fault that means the same to everyone. -/
def plain (b : Breach) : Fault := { read := b, skipped := some b, named := b }

end Fault

/-- JSON text as far as it can be read. `cut` tells why the list of items or
entries goes no further, if its closing bracket was not found. -/
inductive Doc where
  | null
  | bool (value : Bool)
  | int (value : Int)
  | double (value : Double)
  | str (value : String)
  | arr (items : List Doc) (cut : Option Fault)
  | obj (entries : List (String × Doc)) (cut : Option Fault)
  | fault (fault : Fault)
deriving Repr, Inhabited

namespace Doc

mutual

/-- The document of a value. -/
def ofJson : Json → Doc
  | .null => .null
  | .bool b => .bool b
  | .int n => .int n
  | .double x => .double x
  | .str s => .str s
  | .arr items => .arr (ofItems items) none
  | .obj entries => .obj (ofEntries entries) none

def ofItems : List Json → List Doc
  | [] => []
  | item :: rest => ofJson item :: ofItems rest

def ofEntries : List (String × Json) → List (String × Doc)
  | [] => []
  | (key, value) :: rest => (key, ofJson value) :: ofEntries rest

end

/-! ### Passing over a document -/

/-- Passes the end of a list, or reports why it has none. -/
def closeSkipped : Option Fault → Except Breach Unit
  | some { skipped := some b, .. } => .error b
  | _ => .ok ()

/-- Passes the end of a list, or reports why it has none. -/
def closeRead : Option Fault → Except Breach Unit
  | some f => .error f.read
  | none => .ok ()

mutual

/-- Passes over a document that nobody wants. -/
def skip : Doc → Except Breach Unit
  | .arr items cut => do skipItems items; closeSkipped cut
  | .obj entries cut => do skipEntries entries; closeSkipped cut
  | .fault f => closeSkipped (some f)
  | _ => .ok ()

def skipItems : List Doc → Except Breach Unit
  | [] => .ok ()
  | item :: rest => do item.skip; skipItems rest

def skipEntries : List (String × Doc) → Except Breach Unit
  | [] => .ok ()
  | (_, value) :: rest => do value.skip; skipEntries rest

end

mutual

/-- Passes over a document that is set aside for later. It must be sound
throughout and have at most `room` levels of arrays and objects. -/
def keep : (room : Nat) → Doc → Except Breach Unit
  | 0, .arr _ _ | 0, .obj _ _ => .error .malformed
  | room + 1, .arr items cut => do keepItems room items; closeRead cut
  | room + 1, .obj entries cut => do keepEntries room entries; closeRead cut
  | _, .fault f => .error f.read
  | _, _ => .ok ()

def keepItems (room : Nat) : List Doc → Except Breach Unit
  | [] => .ok ()
  | item :: rest => do item.keep room; keepItems room rest

def keepEntries (room : Nat) : List (String × Doc) → Except Breach Unit
  | [] => .ok ()
  | (_, value) :: rest => do value.keep room; keepEntries room rest

end

/-! ### Values of sound documents -/

mutual

/-- The value that a document holds, or why it holds none. -/
def toJson : Doc → Except Breach Json
  | .null => .ok .null
  | .bool b => .ok (.bool b)
  | .int n => .ok (.int n)
  | .double x => .ok (.double x)
  | .str s => .ok (.str s)
  | .arr items cut => do
      let values ← toItems items
      closeRead cut
      return .arr values
  | .obj entries cut => do
      let values ← toEntries entries
      closeRead cut
      return .obj values
  | .fault f => .error f.read

def toItems : List Doc → Except Breach (List Json)
  | [] => .ok []
  | item :: rest => do return (← item.toJson) :: (← toItems rest)

def toEntries : List (String × Doc) → Except Breach (List (String × Json))
  | [] => .ok []
  | (key, value) :: rest => do return (key, ← value.toJson) :: (← toEntries rest)

end

/-! ### Documents of values -/

mutual

/-- A value has nothing to find fault with. -/
theorem skip_ofJson : ∀ j : Json, (ofJson j).skip = .ok ()
  | .null | .bool _ | .int _ | .double _ | .str _ => rfl
  | .arr items => by simp [ofJson, skip, skipItems_ofItems items, closeSkipped, bind, Except.bind]
  | .obj entries => by
      simp [ofJson, skip, skipEntries_ofEntries entries, closeSkipped, bind, Except.bind]

theorem skipItems_ofItems : ∀ items : List Json, skipItems (ofItems items) = .ok ()
  | [] => rfl
  | item :: rest => by
      simp [ofItems, skipItems, skip_ofJson item, skipItems_ofItems rest, bind, Except.bind]

theorem skipEntries_ofEntries :
    ∀ entries : List (String × Json), skipEntries (ofEntries entries) = .ok ()
  | [] => rfl
  | (_, value) :: rest => by
      simp [ofEntries, skipEntries, skip_ofJson value, skipEntries_ofEntries rest, bind,
        Except.bind]

end

mutual

/-- The document of a value holds that value. -/
theorem toJson_ofJson : ∀ j : Json, (ofJson j).toJson = .ok j
  | .null | .bool _ | .int _ | .double _ | .str _ => rfl
  | .arr items => by
      simp [ofJson, toJson, toItems_ofItems items, closeRead, bind, Except.bind, pure,
        Except.pure]
  | .obj entries => by
      simp [ofJson, toJson, toEntries_ofEntries entries, closeRead, bind, Except.bind, pure,
        Except.pure]

theorem toItems_ofItems : ∀ items : List Json, toItems (ofItems items) = .ok items
  | [] => rfl
  | item :: rest => by
      simp [ofItems, toItems, toJson_ofJson item, toItems_ofItems rest, bind, Except.bind, pure,
        Except.pure]

theorem toEntries_ofEntries :
    ∀ entries : List (String × Json), toEntries (ofEntries entries) = .ok entries
  | [] => rfl
  | (_, value) :: rest => by
      simp [ofEntries, toEntries, toJson_ofJson value, toEntries_ofEntries rest, bind,
        Except.bind, pure, Except.pure]

end

mutual

/-- A value can be set aside exactly if it does not nest too deeply. -/
theorem keep_ofJson : ∀ (room : Nat) (j : Json),
    (ofJson j).keep room = if j.nesting ≤ room then .ok () else .error .malformed
  | room, .null | room, .bool _ | room, .int _ | room, .double _ | room, .str _ => by
      simp [ofJson, keep, Json.nesting]
  | 0, .arr items => by simp [ofJson, keep, Json.nesting]
  | 0, .obj entries => by simp [ofJson, keep, Json.nesting]
  | room + 1, .arr items => by
      simp only [ofJson, keep, keepItems_ofItems room items, Json.nesting, Nat.add_le_add_iff_right]
      split <;> rfl
  | room + 1, .obj entries => by
      simp only [ofJson, keep, keepEntries_ofEntries room entries, Json.nesting,
        Nat.add_le_add_iff_right]
      split <;> rfl

theorem keepItems_ofItems : ∀ (room : Nat) (items : List Json),
    keepItems room (ofItems items) =
      if Json.nestingItems items ≤ room then .ok () else .error .malformed
  | room, [] => by simp [ofItems, keepItems, Json.nestingItems]
  | room, item :: rest => by
      simp only [ofItems, keepItems, keep_ofJson room item, keepItems_ofItems room rest,
        Json.nestingItems, Nat.max_le, bind, Except.bind]
      by_cases h : item.nesting ≤ room <;> simp [h]

theorem keepEntries_ofEntries : ∀ (room : Nat) (entries : List (String × Json)),
    keepEntries room (ofEntries entries) =
      if Json.nestingEntries entries ≤ room then .ok () else .error .malformed
  | room, [] => by simp [ofEntries, keepEntries, Json.nestingEntries]
  | room, (_, value) :: rest => by
      simp only [ofEntries, keepEntries, keep_ofJson room value, keepEntries_ofEntries room rest,
        Json.nestingEntries, Nat.max_le, bind, Except.bind]
      by_cases h : value.nesting ≤ room <;> simp [h]

end

end Doc

end Scopewise
