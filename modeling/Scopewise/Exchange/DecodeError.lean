/-
Why a document is not a program tree.

A `DecodeError` is a cause; `DecodeError.message` is its wording. A text that is
not JSON has no wording of its own, only the way in which it is broken.
-/

import Scopewise.Json.Doc
import Scopewise.Text.Quoted

namespace Scopewise

/-- What stands at a place of a document. -/
inductive Found where
  | null
  | bool (value : Bool)
  | int (value : Int)
  | double (value : Double)
  | str (value : String)
  | arr
  | obj
deriving DecidableEq, Repr

/-- What should stand at a place of a document. -/
inductive Wanted where
  | string
  | boolean
  | sequence
  | int64
  | int32
  /-- Nothing but the name beside it. -/
  | unit
  /-- One of a few names, alone or as the only key of an object. -/
  | oneName
  /-- The kind of a node. -/
  | nodeKind
  | record (name : String)
deriving DecidableEq, Repr

/-- Why a document is not a program tree. -/
inductive DecodeError where
  /-- The text is not JSON. -/
  | text (breach : Breach)
  | wrongType (found : Found) (wanted : Wanted)
  | outOfRange (value : Int) (wanted : Wanted)
  /-- A node kind was given by a number, and there are only `kinds` of them. -/
  | noSuchKind (index : Int) (kinds : Nat)
  /-- An object that stands for a name has not exactly one key. -/
  | notOneKey
  /-- A record written as a list ends before a field that it needs. -/
  | tooShort (given : Nat) (record : String) (fields : Nat)
  /-- A record written as a list has more items than fields. -/
  | tooLong (given : Nat)
  /-- The same, in a part that was set aside before it was decoded. -/
  | tooLongKept (given fields : Nat)
  | missingField (name : String)
  | duplicateField (name : String)
  | unknownName (name : String) (known : List String)
deriving DecidableEq, Repr

def Found.text : Found → String
  | .null => "null"
  | .bool true => "boolean `true`"
  | .bool false => "boolean `false`"
  | .int n => "integer `" ++ toString n ++ "`"
  | .double x => "floating point `" ++ x.text ++ "`"
  | .str s => "string " ++ Text.quoted s
  | .arr => "sequence"
  | .obj => "map"

def Wanted.text : Wanted → String
  | .string => "a string"
  | .boolean => "a boolean"
  | .sequence => "a sequence"
  | .int64 => "i64"
  | .int32 => "i32"
  | .unit => "unit"
  | .oneName => "string or map"
  | .nodeKind => "variant identifier"
  | .record name => "struct " ++ name

namespace DecodeError

/-- Names in a message stand between backquotes. -/
def ticked (name : String) : String := "`" ++ name ++ "`"

/-- The wording of an error; empty for a text that is not JSON. -/
def message : DecodeError → String
  | .text _ => ""
  | .wrongType found wanted => "invalid type: " ++ found.text ++ ", expected " ++ wanted.text
  | .outOfRange value wanted =>
      "invalid value: " ++ (Found.int value).text ++ ", expected " ++ wanted.text
  | .noSuchKind index kinds =>
      "invalid value: " ++ (Found.int index).text ++ ", expected variant index 0 <= i < " ++
        toString kinds
  | .notOneKey => "invalid value: map, expected map with a single key"
  | .tooShort given record fields =>
      "invalid length " ++ toString given ++ ", expected struct " ++ record ++ " with " ++
        toString fields ++ " elements"
  | .tooLong given => "invalid length " ++ toString given ++ ", expected fewer elements in array"
  | .tooLongKept given fields =>
      "invalid length " ++ toString given ++ ", expected " ++ toString fields ++
        " elements in sequence"
  | .missingField name => "missing field " ++ ticked name
  | .duplicateField name => "duplicate field " ++ ticked name
  | .unknownName name known =>
      "unknown variant " ++ ticked name ++ ", expected one of " ++
        ", ".intercalate (known.map ticked)

end DecodeError

end Scopewise
