/-
The text of JSON values.

`Json.compact` writes a value without blanks. `Json.pretty` puts every item and
entry on a line of its own, two blanks deeper than what holds it. In strings the
quote, the backslash and the control characters below the blank are escaped, and
nothing else.
-/

import Scopewise.Json.Value

namespace Scopewise

namespace Json

/-- A hexadecimal digit, in lower case. -/
def hexDigit (n : Nat) : Char := "0123456789abcdef".toList.getD n '0'

/-- How a character is written inside a string. -/
def escape (c : Char) : List Char :=
  if c = '"' then ['\\', '"']
  else if c = '\\' then ['\\', '\\']
  else if c = '\n' then ['\\', 'n']
  else if c = '\r' then ['\\', 'r']
  else if c = '\t' then ['\\', 't']
  else if c = Char.ofNat 8 then ['\\', 'b']
  else if c = Char.ofNat 12 then ['\\', 'f']
  else if c.toNat < 32 then ['\\', 'u', '0', '0', hexDigit (c.toNat / 16), hexDigit (c.toNat % 16)]
  else [c]

/-- A string with its quotes. -/
def quote (s : String) : List Char := '"' :: (s.toList.flatMap escape ++ ['"'])

/-- The text of a value that is no array and no object. -/
def scalarChars : Json → List Char
  | .null => "null".toList
  | .bool true => "true".toList
  | .bool false => "false".toList
  | .int n => (toString n).toList
  | .double x => x.text.toList
  | .str s => quote s
  | .arr _ | .obj _ => []

mutual

/-- The characters of a value without blanks. -/
def chars : Json → List Char
  | .arr [] => ['[', ']']
  | .arr (item :: rest) => '[' :: (item.chars ++ charsItems rest)
  | .obj [] => ['{', '}']
  | .obj ((key, value) :: rest) => '{' :: (quote key ++ ':' :: (value.chars ++ charsEntries rest))
  | .null => scalarChars .null
  | .bool b => scalarChars (.bool b)
  | .int n => scalarChars (.int n)
  | .double x => scalarChars (.double x)
  | .str s => scalarChars (.str s)

/-- The items after the first, each behind its comma, and the bracket. -/
def charsItems : List Json → List Char
  | [] => [']']
  | item :: rest => ',' :: (item.chars ++ charsItems rest)

/-- The entries after the first, each behind its comma, and the brace. -/
def charsEntries : List (String × Json) → List Char
  | [] => ['}']
  | (key, value) :: rest => ',' :: (quote key ++ ':' :: (value.chars ++ charsEntries rest))

end

/-- The text of a value without blanks. -/
def compact (j : Json) : String := String.ofList j.chars

/-- A line feed and the indentation of a level. -/
def newline (level : Nat) : List Char := '\n' :: List.replicate (2 * level) ' '

mutual

/-- The characters of a value that stands at a given level. -/
def prettyChars (level : Nat) : Json → List Char
  | .arr [] => ['[', ']']
  | .arr (item :: rest) =>
      '[' :: (newline (level + 1) ++ item.prettyChars (level + 1) ++ prettyItems level rest)
  | .obj [] => ['{', '}']
  | .obj ((key, value) :: rest) =>
      '{' :: (newline (level + 1) ++ quote key ++ ':' :: ' ' :: value.prettyChars (level + 1) ++
        prettyEntries level rest)
  | .null => scalarChars .null
  | .bool b => scalarChars (.bool b)
  | .int n => scalarChars (.int n)
  | .double x => scalarChars (.double x)
  | .str s => scalarChars (.str s)

/-- The items after the first and the bracket, under an array at `level`. -/
def prettyItems (level : Nat) : List Json → List Char
  | [] => newline level ++ [']']
  | item :: rest =>
      ',' :: (newline (level + 1) ++ item.prettyChars (level + 1) ++ prettyItems level rest)

/-- The entries after the first and the brace, under an object at `level`. -/
def prettyEntries (level : Nat) : List (String × Json) → List Char
  | [] => newline level ++ ['}']
  | (key, value) :: rest =>
      ',' :: (newline (level + 1) ++ quote key ++ ':' :: ' ' :: value.prettyChars (level + 1) ++
        prettyEntries level rest)

end

/-- The text of a value with one item or entry on a line. -/
def pretty (j : Json) : String := String.ofList (j.prettyChars 0)

end Json

end Scopewise
