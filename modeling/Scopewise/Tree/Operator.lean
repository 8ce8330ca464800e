/-
The four binary operators.

An operator has three spellings: its symbol in source text, its name in an
outline of the tree, and its keyword in the exchange format, which reads the
symbol as well.
-/

namespace Scopewise

/-- A binary arithmetic operator. -/
inductive Operator where
  | plus
  | minus
  | times
  | divide
deriving DecidableEq, Repr

namespace Operator

/-- The symbol written between the operands. -/
def symbol : Operator → String
  | .plus => "+"
  | .minus => "-"
  | .times => "*"
  | .divide => "/"

/-- The name shown in an outline. -/
def name : Operator → String
  | .plus => "plus"
  | .minus => "minus"
  | .times => "times"
  | .divide => "divide"

/-- The keyword written in the exchange format. -/
def keyword : Operator → String
  | .plus => "PLUS"
  | .minus => "MINUS"
  | .times => "TIMES"
  | .divide => "DIVIDE"

/-- Every operator, each once. -/
def all : List Operator := [.plus, .minus, .times, .divide]

/-- The operator with a given symbol. -/
def ofSymbol? (s : String) : Option Operator := all.find? fun o => o.symbol == s

/-- The operator with a given symbol or keyword. -/
def ofSpelling? (s : String) : Option Operator :=
  all.find? fun o => o.symbol == s || o.keyword == s

theorem ofSymbol?_symbol (o : Operator) : ofSymbol? o.symbol = some o := by
  cases o <;> decide

theorem ofSpelling?_symbol (o : Operator) : ofSpelling? o.symbol = some o := by
  cases o <;> decide

theorem ofSpelling?_keyword (o : Operator) : ofSpelling? o.keyword = some o := by
  cases o <;> decide

end Operator

end Scopewise
