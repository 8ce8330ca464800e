/-
Double-precision numbers, as the exchange format reads and shows them.

A number with a fraction or an exponent is kept as the bits of a double.
`Double.ofDecimal?` scales a 64-bit significand by one power of ten; a result
beyond the largest double is refused. `Double.text` shows the fewest digits
that read back: the shortest decimal in the interval of reals that round to the
number, and of two such the nearer. It is positional while the decimal point
lies within sixteen digits of the front and at most four zeros behind it;
otherwise one digit stands before the point, and the exponent has its sign.
-/

namespace Scopewise

/-- A double-precision number, by its bits. -/
structure Double where
  bits : UInt64
deriving DecidableEq, Repr

namespace Double

/-- The double nearest to `10 ^ e`. -/
def powerOfTen (e : Nat) : Float := Float.ofScientific 1 false e

/-- The largest power of ten that is a double. -/
def maxPower : Nat := 308

/-- Scales `f` by `10 ^ e`, one representable power at a time; `none` when the
result is too large. A 64-bit significand vanishes after two divisions by the
largest power, so three rounds are enough for every exponent. -/
def scale? : (rounds : Nat) → Float → Int → Option Float
  | 0, _, _ => some 0.0
  | rounds + 1, f, e =>
      if e.natAbs ≤ maxPower then
        if 0 ≤ e then
          let scaled := f * powerOfTen e.natAbs
          if scaled.isInf then none else some scaled
        else some (f / powerOfTen e.natAbs)
      else if f == 0.0 then some f
      else if 0 ≤ e then none
      else scale? rounds (f / powerOfTen maxPower) (e + maxPower)

/-- The double for `significand * 10 ^ exponent`; `none` when it is too large. -/
def ofDecimal? (negative : Bool) (significand : UInt64) (exponent : Int) : Option Double :=
  (scale? 4 significand.toFloat exponent).map fun f => ⟨(if negative then -f else f).toBits⟩

/-! ### The shortest decimal -/

def isNegative (x : Double) : Bool := x.bits >>> 63 == 1

/-- The bit that the significand of a normal number has and its bits do not show. -/
def hiddenBit : Nat := 0x10000000000000

/-- The significand and the binary exponent of the magnitude: the number is
`significand * 2 ^ exponent`. -/
def parts (x : Double) : Nat × Int :=
  let exponentBits := ((x.bits >>> 52) &&& 0x7FF).toNat
  let fraction := (x.bits &&& 0xFFFFFFFFFFFFF).toNat
  if exponentBits = 0 then (fraction, -1074)
  else (fraction + hiddenBit, (exponentBits : Int) - 1075)

/-- The multiples of `10 ^ k` that round to `m * 2 ^ q`, among the two around
it, the nearer first. All quantities are counted in quarters of `2 ^ q`, and
the ends of the interval belong to it when `m` is even. A tie goes to the even
multiple. -/
def candidates (m : Nat) (q : Int) (k : Int) : List Nat :=
  let two := q - 2
  let scaleUp := Nat.pow 2 two.toNat * Nat.pow 10 (-k).toNat
  let unit := Nat.pow 10 k.toNat * Nat.pow 2 (-two).toNat
  let value := 4 * m * scaleUp
  let low := (4 * m - (if m = hiddenBit ∧ -1074 < q then 1 else 2)) * scaleUp
  let high := (4 * m + 2) * scaleUp
  let inside (d : Nat) : Bool :=
    if m % 2 = 0 then low ≤ d * unit && d * unit ≤ high else low < d * unit && d * unit < high
  let below := value / unit
  let above := below + 1
  let belowFirst := 2 * (value % unit) < unit || (2 * (value % unit) == unit && below % 2 == 0)
  let ordered := if belowFirst then [below, above] else [above, below]
  ordered.filter fun d => d != 0 && inside d

/-- The powers of ten that can be the last place of a double, largest first. -/
def places : List Int := (List.range 650).map fun (i : Nat) => (310 : Int) - i

/-- The shortest decimal `digits * 10 ^ exponent` that reads back as the
magnitude of `x`. -/
def shortest (x : Double) : Nat × Int :=
  let (m, q) := x.parts
  if m = 0 then (0, 0)
  else
    (places.findSome? fun k => (candidates m q k).head?.map fun d => (d, k)).getD (0, 0)

/-! ### The text of a double -/

/-- `n` zeros. -/
def zeros (n : Nat) : String := String.ofList (List.replicate n '0')

/-- A number with its sign, also when it is positive. -/
def signedText (n : Int) : String := if n < 0 then toString n else "+" ++ toString n

/-- How the magnitude `digits * 10 ^ exponent` is written. -/
def magnitudeText (digits : Nat) (exponent : Int) : String :=
  let shown := toString digits
  let point : Int := shown.length + exponent
  if 0 ≤ exponent ∧ point ≤ 16 then shown ++ zeros exponent.toNat ++ ".0"
  else if 0 < point ∧ point ≤ 16 then
    (shown.take point.toNat).toString ++ "." ++ (shown.drop point.toNat).toString
  else if -5 < point ∧ point ≤ 0 then "0." ++ zeros (-point).toNat ++ shown
  else
    let front := if shown.length = 1 then shown
      else (shown.take 1).toString ++ "." ++ (shown.drop 1).toString
    front ++ "e" ++ signedText (point - 1)

/-- The text of a finite double. -/
def text (x : Double) : String :=
  let (digits, exponent) := x.shortest
  (if x.isNegative then "-" else "") ++ magnitudeText digits exponent

end Double

end Scopewise
