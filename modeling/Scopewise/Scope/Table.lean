/-
The symbol table: a tree of nested scopes.

Scopes are kept in a list in the order in which they were entered and are
called by their place in it; the global scope is number 0. `enter` opens a new
child of the current scope and `exit` returns to the parent. A scope that was
left stays in the list, so the whole tree can be reported in the end.

A name is resolved along `Table.chain`, the current scope followed by its
ancestors: the innermost scope that declares the name wins. Every scope is
entered after its parent, so a chain is never longer than the list of scopes.
-/

import Scopewise.Scope.NameMap
import Scopewise.Scope.Symbol

namespace Scopewise

/-- A lexical scope: its own symbols and its place in the tree of scopes. -/
structure Scope where
  name : String
  symbols : NameMap Symbol := .empty
  parent : Option Nat := none
  /-- The scopes entered from this one, in that order. -/
  children : List Nat := []
deriving DecidableEq

/-- Why the symbol table refuses an operation. -/
inductive ScopeError where
  | duplicateInScope (name scope : String)
  | cannotExitGlobal
deriving DecidableEq, Repr

/-- The wording of a refusal. -/
def ScopeError.message : ScopeError → String
  | .duplicateInScope name scope =>
      "symbol '" ++ name ++ "' is already declared in scope '" ++ scope ++ "'"
  | .cannotExitGlobal => "cannot exit the global scope"

/-- A tree of scopes with one current scope. `counter` is the number of scopes
entered so far and goes into the scope names. -/
structure Table where
  scopes : List Scope
  current : Nat
  counter : Nat
deriving DecidableEq

namespace Table

/-- The global scope before anything is declared. -/
def globalScope : Scope := { name := "global" }

/-- The table with an empty global scope and nothing else. -/
def new : Table := { scopes := [globalScope], current := 0, counter := 0 }

instance : Inhabited Table := ⟨new⟩

/-- The scope with a given number. -/
def scope? (t : Table) (id : Nat) : Option Scope := t.scopes[id]?

/-- The global scope. -/
def global (t : Table) : Scope := (t.scope? 0).getD globalScope

/-- The current scope. -/
def currentScope (t : Table) : Scope := (t.scope? t.current).getD globalScope

/-- The number of the first scope with a given full name. -/
def findScope? (t : Table) (name : String) : Option Nat :=
  t.scopes.findIdx? fun s => s.name == name

/-! ### Moving between scopes -/

/-- The name of the `n`th scope entered, under a label. -/
def scopeName (label : String) (n : Nat) : String := label ++ "_" ++ toString n

/-- Opens a child of the current scope and makes it current. -/
def enter (t : Table) (label : String) : Table :=
  let id := t.scopes.length
  let child : Scope := { name := scopeName label (t.counter + 1), parent := some t.current }
  { scopes := t.scopes.modify t.current (fun s => { s with children := s.children ++ [id] })
      ++ [child]
    current := id
    counter := t.counter + 1 }

/-- Returns to the parent of the current scope. -/
def exit (t : Table) : Except ScopeError Table :=
  match t.currentScope.parent with
  | some parent => .ok { t with current := parent }
  | none => .error .cannotExitGlobal

/-! ### Declarations -/

/-- Adds a symbol to the current scope, under its own name. A second symbol of
the same name is refused. -/
def insert (t : Table) (symbol : Symbol) : Except ScopeError Table :=
  let scope := t.currentScope
  if scope.symbols.contains symbol.name then
    .error (.duplicateInScope symbol.name scope.name)
  else
    .ok { t with
      scopes := t.scopes.modify t.current fun s =>
        { s with symbols := s.symbols.insert symbol.name symbol } }

/-- Declares a name in which nothing is stored yet. -/
def declare (t : Table) (name : String) (type : Ty) (place : Position) :
    Except ScopeError Table :=
  t.insert (.declared name type place)

/-- Declares a name that starts with a value, known or not. -/
def declareWithValue (t : Table) (name : String) (type : Ty) (value : Option Constant)
    (place : Position) : Except ScopeError Table :=
  t.insert (.withValue name type value place)

/-! ### Name resolution -/

/-- The scope numbered `id` and its ancestors, innermost first, at most `bound`
of them. -/
def chainFrom (t : Table) : (bound id : Nat) → List Nat
  | 0, _ => []
  | bound + 1, id =>
      match t.scope? id with
      | none => []
      | some scope =>
          match scope.parent with
          | none => [id]
          | some parent => id :: t.chainFrom bound parent

/-- The current scope and its ancestors, innermost first. -/
def chain (t : Table) : List Nat := t.chainFrom t.scopes.length t.current

/-- Whether the scope numbered `id` declares `name`. -/
def declares (t : Table) (name : String) (id : Nat) : Bool :=
  (t.scope? id).any fun scope => scope.symbols.contains name

/-- The innermost scope of the chain that declares `name`. -/
def resolve? (t : Table) (name : String) : Option Nat := t.chain.find? (t.declares name)

/-- The symbol that `name` stands for in the current scope. -/
def lookup? (t : Table) (name : String) : Option Symbol := do
  let id ← t.resolve? name
  let scope ← t.scope? id
  scope.symbols.get? name

/-- The symbol that the current scope itself declares under `name`. -/
def lookupLocal? (t : Table) (name : String) : Option Symbol := t.currentScope.symbols.get? name

/-- Changes the symbol that `name` stands for; `none` when there is no such
symbol. -/
def modify? (t : Table) (name : String) (f : Symbol → Symbol) : Option Table := do
  let id ← t.resolve? name
  return { t with
    scopes := t.scopes.modify id fun s => { s with symbols := s.symbols.modify name f } }

/-- Stores a value in the symbol that `name` stands for. -/
def assign? (t : Table) (name : String) (value : Option Constant) : Option Table :=
  t.modify? name (·.store value)

/-! ### Questions about a name -/

def resolves (t : Table) (name : String) : Bool := (t.lookup? name).isSome

def existsLocal (t : Table) (name : String) : Bool := (t.lookupLocal? name).isSome

/-- The value of a name, if the name is declared and its value is known. -/
def value? (t : Table) (name : String) : Option Constant := (t.lookup? name).bind (·.value)

/-- The type of a name, if the name is declared. -/
def type? (t : Table) (name : String) : Option Ty := (t.lookup? name).map (·.type)

/-- Whether a name is declared and something was stored in it. -/
def isInitialized (t : Table) (name : String) : Bool := (t.lookup? name).any (·.initialized)

end Table

end Scopewise
