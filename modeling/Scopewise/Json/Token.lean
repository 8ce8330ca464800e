/-
The tokens of JSON text.

`Token.scan` cuts a text into brackets, separators, words, numbers and strings.
Where no token can be found it leaves a broken token with the fault; scanning
goes on behind a fault that a skipped value would survive, and stops at any
other.

Strings and numbers can be sound to look at and still have no content: an escape
that names half of a surrogate pair, or a number beyond the largest double.
-/

import Scopewise.Json.Doc

namespace Scopewise

/-- A piece of JSON text. -/
inductive Token where
  | openBrace
  | closeBrace
  | openBracket
  | closeBracket
  | comma
  | colon
  | null
  | bool (value : Bool)
  | int (value : Int)
  | double (value : Double)
  | str (value : String)
  /-- A string without content. -/
  | badStr (fault : Fault)
  /-- Anything else that is no token. -/
  | bad (fault : Fault)
deriving DecidableEq, Repr

namespace Token

/-- A token, and the text behind it unless scanning stops there. -/
abbrev Step := Token × Option (List Char)

/-- A place at which no token starts. -/
def junk : Step := (.bad (.plain .malformed), none)

/-! ### Words -/

/-- A word that stops before its end, or goes on wrongly. -/
def badWord (b : Breach) : Step :=
  (.bad { read := b, skipped := some b, named := .malformed }, none)

/-- Reads the letters `word` and then gives `token`. -/
def scanWord (token : Token) : (word text : List Char) → Step
  | [], rest => (token, some rest)
  | _ :: _, [] => badWord .ended
  | w :: word, c :: rest => if c = w then scanWord token word rest else badWord .malformed

/-! ### Strings -/

/-- A piece of a string: a character, or half of a surrogate pair that an escape
names by its code. -/
inductive Piece where
  | char (c : Char)
  | half (code : Nat)
deriving DecidableEq, Repr

/-- The first halves of surrogate pairs. -/
def isLeading (code : Nat) : Bool := 0xD800 ≤ code && code < 0xDC00

/-- The second halves of surrogate pairs. -/
def isTrailing (code : Nat) : Bool := 0xDC00 ≤ code && code < 0xE000

/-- The character of a surrogate pair. -/
def pairChar (leading trailing : Nat) : Char :=
  Char.ofNat (0x10000 + (leading - 0xD800) * 0x400 + (trailing - 0xDC00))

/-- What a code stands for. -/
def Piece.ofCode (code : Nat) : Piece :=
  if isLeading code || isTrailing code then .half code else .char (Char.ofNat code)

/-- What the inside of a string is: its pieces as far as it goes, and the text
behind its closing quote, if it has one. -/
structure Inside where
  pieces : List Piece
  rest : Except Breach (List Char)

namespace Inside

/-- The inside of a string that breaks off at once. -/
def broken (b : Breach) : Inside := ⟨[], .error b⟩

/-- Puts a piece in front. -/
def cons (p : Piece) (i : Inside) : Inside := { i with pieces := p :: i.pieces }

/-- Puts the halves of pairs together. A first half at the very end misses its
second half, unless the string breaks off right there. -/
def join (stop : Option Breach) : List Piece → Except Breach (List Char)
  | [] => match stop with
      | none => .ok []
      | some b => .error b
  | .char c :: rest => (join stop rest).map (c :: ·)
  | [.half code] => .error (if isLeading code then stop.getD .malformed else .malformed)
  | .half code :: .half second :: rest =>
      if isLeading code && isTrailing second then
        (join stop rest).map (pairChar code second :: ·)
      else .error .malformed
  | .half _ :: .char _ :: _ => .error .malformed

/-- The token of a string with this inside. -/
def step (i : Inside) : Step :=
  match i.rest with
  | .ok rest =>
      match join none i.pieces with
      | .ok cs => (.str (String.ofList cs), some rest)
      | .error r => (.badStr { read := r, skipped := none, named := r }, some rest)
  | .error b =>
      match join (some b) i.pieces with
      | .ok _ => (.badStr (.plain b), none)
      | .error r => (.badStr { read := r, skipped := some b, named := r }, none)

end Inside

/-- The value of a hexadecimal digit. -/
def hexValue? (c : Char) : Option Nat :=
  if '0' ≤ c ∧ c ≤ '9' then some (c.toNat - '0'.toNat)
  else if 'a' ≤ c ∧ c ≤ 'f' then some (c.toNat - 'a'.toNat + 10)
  else if 'A' ≤ c ∧ c ≤ 'F' then some (c.toNat - 'A'.toNat + 10)
  else none

/-- The code of four hexadecimal digits. -/
def hexCode? (a b c d : Char) : Option Nat := do
  let a ← hexValue? a
  let b ← hexValue? b
  let c ← hexValue? c
  let d ← hexValue? d
  return ((a * 16 + b) * 16 + c) * 16 + d

/-- What is wrong with a code of fewer than four characters: the text ended, if
fewer than four bytes are left of it. -/
def shortCode (left : List Char) : Breach :=
  if (String.ofList left).utf8ByteSize < 4 then .ended else .malformed

/-- The character that a one-letter escape stands for. -/
def shortEscape? (c : Char) : Option Char :=
  if c = '"' ∨ c = '\\' ∨ c = '/' then some c
  else if c = 'b' then some (Char.ofNat 8)
  else if c = 'f' then some (Char.ofNat 12)
  else if c = 'n' then some '\n'
  else if c = 'r' then some '\r'
  else if c = 't' then some '\t'
  else none

/-- Reads the inside of a string, behind its opening quote. -/
def inside : List Char → Inside
  | [] => .broken .ended
  | c :: text =>
      if c = '"' then ⟨[], .ok text⟩
      else if c = '\\' then
        match text with
        | [] => .broken .ended
        | e :: text =>
            if e = 'u' then
              match text with
              | a :: b :: c :: d :: text =>
                  match hexCode? a b c d with
                  | some code => (inside text).cons (.ofCode code)
                  | none => .broken .malformed
              | short => .broken (shortCode short)
            else
              match shortEscape? e with
              | some escaped => (inside text).cons (.char escaped)
              | none => .broken .malformed
      else if c.toNat < 32 then .broken .malformed
      else (inside text).cons (.char c)

/-! ### Numbers -/

/-- The number written by decimal digits. -/
def decimalValue (digits : List Char) : Nat := Nat.ofDigitChars 10 digits 0

/-- The digits at the front of a text, and what follows them. -/
def spanDigits (text : List Char) : List Char × List Char :=
  (text.takeWhile Char.isDigit, text.dropWhile Char.isDigit)

/-- A number written in decimal, with its fraction and exponent if there are
any. -/
structure Decimal where
  negative : Bool
  whole : List Char
  fraction : Option (List Char)
  exponent : Option (Bool × List Char)

namespace Decimal

/-- Appends digits to a 64-bit significand while it does not overflow. Gives
the significand and how many digits were left over. -/
def accumulate (significand : Nat) : List Char → Nat × Nat
  | [] => (significand, 0)
  | c :: rest =>
      let next := Nat.ofDigitChars 10 [c] significand
      if next < UInt64.size then accumulate next rest else (significand, rest.length + 1)

/-- The significand and the power of ten of the digits around the point. Whole
digits that do not fit raise the power, digits of the fraction that do not fit
are dropped. -/
def digits (d : Decimal) : Nat × Int :=
  let (whole, dropped) := accumulate 0 d.whole
  let fraction := d.fraction.getD []
  let (significand, unread) := accumulate whole fraction
  (significand, (dropped : Int) - ((fraction.length - unread : Nat) : Int))

/-- The largest exponent that is computed with. -/
def exponentLimit : Nat := 0x7FFFFFFF

/-- The double that the number stands for; `none` when it is too large. -/
def toDouble? (d : Decimal) : Option Double :=
  let (significand, power) := d.digits
  match d.exponent with
  | none => Double.ofDecimal? d.negative significand.toUInt64 power
  | some (down, written) =>
      let e := decimalValue written
      if exponentLimit < e then
        if significand ≠ 0 ∧ !down then none else Double.ofDecimal? d.negative 0 0
      else
        Double.ofDecimal? d.negative significand.toUInt64 (if down then power - e else power + e)

/-- The token of a number. A number without fraction and exponent is an integer
if it fits 64 bits with or without sign; negative zero is not an integer. -/
def token (d : Decimal) : Token :=
  let n := decimalValue d.whole
  let integer : Option Int :=
    if d.fraction.isSome || d.exponent.isSome then none
    else if d.negative then (if 0 < n ∧ n ≤ 0x8000000000000000 then some (-(n : Int)) else none)
    else if n < UInt64.size then some (n : Int)
    else none
  match integer with
  | some n => .int n
  | none =>
      match d.toDouble? with
      | some x => .double x
      | none => .bad { read := .malformed, skipped := none, named := .malformed }

end Decimal

/-- A number that lacks a digit: behind it the text has ended or goes on
wrongly. A skipped number is malformed in both cases. -/
def badNumber (text : List Char) : Step :=
  let read : Breach := if text.isEmpty then .ended else .malformed
  (.bad { read, skipped := some .malformed, named := .malformed }, none)

/-- The exponent of a number, if the text goes on with one. -/
def scanExponent (d : Decimal) (text : List Char) : Step :=
  match text with
  | c :: text =>
      if c = 'e' ∨ c = 'E' then
        let (down, text) :=
          match text with
          | '+' :: text => (false, text)
          | '-' :: text => (true, text)
          | text => (false, text)
        let (written, rest) := spanDigits text
        if written.isEmpty then badNumber rest
        else ({ d with exponent := some (down, written) }.token, some rest)
      else (d.token, some (c :: text))
  | [] => (d.token, some [])

/-- The fraction of a number, if the text goes on with one. -/
def scanFraction (d : Decimal) (text : List Char) : Step :=
  match text with
  | '.' :: text =>
      let (written, rest) := spanDigits text
      if written.isEmpty then badNumber rest
      else scanExponent { d with fraction := some written } rest
  | text => scanExponent d text

/-- A number without its sign. No whole part but zero starts with a zero. -/
def scanNumber (negative : Bool) (text : List Char) : Step :=
  let (whole, rest) := spanDigits text
  if whole.isEmpty then badNumber rest
  else if whole.head? = some '0' ∧ 1 < whole.length then junk
  else scanFraction { negative, whole, fraction := none, exponent := none } rest

/-! ### Texts -/

def isBlank (c : Char) : Bool := c == ' ' || c == '\t' || c == '\n' || c == '\r'

/-- The token at the front of a text that starts with `c`, no blank. -/
def scanOne (c : Char) (text : List Char) : Step :=
  if c = '{' then (.openBrace, some text)
  else if c = '}' then (.closeBrace, some text)
  else if c = '[' then (.openBracket, some text)
  else if c = ']' then (.closeBracket, some text)
  else if c = ',' then (.comma, some text)
  else if c = ':' then (.colon, some text)
  else if c = '"' then (inside text).step
  else if c = 'n' then scanWord .null ['u', 'l', 'l'] text
  else if c = 't' then scanWord (.bool true) ['r', 'u', 'e'] text
  else if c = 'f' then scanWord (.bool false) ['a', 'l', 's', 'e'] text
  else if c = '-' then scanNumber true text
  else if c.isDigit then scanNumber false (c :: text)
  else junk

/-- The tokens of a text of at most `bound` characters. -/
def scanFrom : (bound : Nat) → List Char → List Token
  | 0, _ => []
  | _ + 1, [] => []
  | bound + 1, c :: text =>
      if isBlank c then scanFrom bound text
      else
        match scanOne c text with
        | (token, some rest) => token :: scanFrom bound rest
        | (token, none) => [token]

/-- The tokens of a text. Each takes at least one character. -/
def scan (text : List Char) : List Token := scanFrom text.length text

end Token

end Scopewise
