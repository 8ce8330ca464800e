/-
Reading JSON text into documents.

`Doc.ofText` reads one document from the front of a text and tells whether
nothing but blanks follows it. It never fails: what cannot be read stands in the
document as a fault. `Json.parse` is the plain reader on top of it, which wants
a sound document and nothing behind it.
-/

import Scopewise.Json.Token

namespace Scopewise

namespace Doc

/-- What is wrong at a place where one of a few separators has to stand. -/
def separatorFault : List Token → Fault
  | [] => .plain .ended
  | _ :: _ => .plain .malformed

/-- What is wrong at a place where a key has to stand, behind a comma or not.
Behind the comma nothing but an entry would do, so a reader that wants no
further entry finds fault with the comma itself. -/
def keyFault (behindComma : Bool) (b : Breach) : Fault :=
  { read := b, skipped := some b, named := if behindComma then .malformed else b }

/-- The cut of an object at a key without content. A reader stops there; for
someone who skips the object, only the faults behind the key count. -/
def spoiledKey (f : Fault) (behind : Except Breach Unit) : Fault :=
  { f with skipped := match behind with | .ok _ => none | .error b => some b }

mutual

/-- Reads a document from the front of `tokens`. Gives the tokens behind it,
unless reading breaks off inside it. -/
def readValue : (bound : Nat) → (tokens : List Token) → Doc × Option (List Token)
  | 0, _ => (.fault (.plain .malformed), none)
  | _ + 1, [] => (.fault (.plain .ended), none)
  | bound + 1, token :: rest =>
      match token with
      | .null => (.null, some rest)
      | .bool b => (.bool b, some rest)
      | .int n => (.int n, some rest)
      | .double x => (.double x, some rest)
      | .str s => (.str s, some rest)
      | .bad f | .badStr f => (.fault f, if f.skipped.isNone then some rest else none)
      | .openBracket =>
          match rest with
          | .closeBracket :: rest => (.arr [] none, some rest)
          | [] => (.arr [] (some (.plain .ended)), none)
          | _ :: _ =>
              let (items, cut, rest) := readItems bound rest
              (.arr items cut, rest)
      | .openBrace =>
          match rest with
          | .closeBrace :: rest => (.obj [] none, some rest)
          | rest =>
              let (entries, cut, rest) := readEntries bound false rest
              (.obj entries cut, rest)
      | .closeBracket | .closeBrace | .comma | .colon => (.fault (.plain .malformed), none)

/-- Reads the items of an array up to its closing bracket. -/
def readItems : (bound : Nat) → (tokens : List Token) →
    List Doc × Option Fault × Option (List Token)
  | 0, _ => ([], some (.plain .malformed), none)
  | bound + 1, tokens =>
      match readValue bound tokens with
      | (item, none) => ([item], none, none)
      | (item, some (.closeBracket :: rest)) => ([item], none, some rest)
      | (item, some (.comma :: rest)) =>
          let (items, cut, rest) := readItems bound rest
          (item :: items, cut, rest)
      | (item, some other) => ([item], some (separatorFault other), none)

/-- Reads the entries of an object up to its closing brace. -/
def readEntries : (bound : Nat) → (behindComma : Bool) → (tokens : List Token) →
    List (String × Doc) × Option Fault × Option (List Token)
  | 0, _, _ => ([], some (.plain .malformed), none)
  | _ + 1, behindComma, [] => ([], some (keyFault behindComma .ended), none)
  | bound + 1, behindComma, token :: rest =>
      match token with
      | .str key =>
          let (value, entries, cut, rest) := readEntry bound rest
          ((key, value) :: entries, cut, rest)
      | .badStr f =>
          let fault : Fault := { f with named := if behindComma then .malformed else f.named }
          if f.skipped.isSome then ([], some fault, none)
          else
            let (value, entries, cut, rest) := readEntry bound rest
            ([], some (spoiledKey fault (Doc.obj (("", value) :: entries) cut).skip), rest)
      | _ => ([], some (keyFault behindComma .malformed), none)

/-- Reads what follows a key: the colon, the value and the further entries. -/
def readEntry : (bound : Nat) → (tokens : List Token) →
    Doc × List (String × Doc) × Option Fault × Option (List Token)
  | 0, _ => (.fault (.plain .malformed), [], none, none)
  | bound + 1, tokens =>
      match tokens with
      | .colon :: tokens =>
          match readValue bound tokens with
          | (value, none) => (value, [], none, none)
          | (value, some (.closeBrace :: rest)) => (value, [], none, some rest)
          | (value, some (.comma :: rest)) =>
              let (entries, cut, rest) := readEntries bound true rest
              (value, entries, cut, rest)
          | (value, some other) => (value, [], some (separatorFault other), none)
      | other => (.fault (separatorFault other), [], none, none)

end

/-- The document at the front of a text, and whether nothing follows it. Each
token is looked at by no more than three nested readers. -/
def ofText (text : List Char) : Doc × Bool :=
  let tokens := Token.scan text
  let (doc, rest) := readValue (3 * tokens.length + 3) tokens
  (doc, rest == some [])

end Doc

/-- The value of a JSON text. -/
def Json.parse (text : String) : Except Breach Json := do
  let (doc, clean) := Doc.ofText text.toList
  let value ← doc.toJson
  if clean then return value else throw .malformed

end Scopewise
