/-!
# Decimal text of binary numbers

The text of a finite 64-bit binary number with the fewest digits that identify it. The digits are
selected by exact arithmetic: the number is `m * 2 ^ q`, the reals that round to it form an interval,
and of the decimal grids `10 ^ e` from coarse to fine the first one with a point in that interval
gives the digits. Of two points the nearer one counts, of equally near ones the even one.

Numbers from `10 ^ -5` up to, but not including, `10 ^ 16` are written positionally and with at least
one fractional digit; all others with an exponent that carries its sign.
-/

namespace Narrative

/-- A finite non-negative binary number `m * 2 ^ q`. -/
structure Binary where
  m : Nat
  q : Int
  /-- Whether the gap to the number below is half the gap to the number above. -/
  narrowBelow : Bool

/-- A decimal number `digits * 10 ^ exponent`. -/
structure Decimal where
  digits : Nat
  exponent : Int
  deriving DecidableEq, Repr

/-- The power of ten with this exponent, one if it is negative. -/
def tens (exponent : Int) : Nat := Nat.pow 10 exponent.toNat

/-- The power of two with this exponent, one if it is negative. -/
def twos (exponent : Int) : Nat := 1 <<< exponent.toNat

namespace Binary

/-- The magnitude that 64 bits stand for, if they stand for a finite number. -/
def ofBits (bits : UInt64) : Binary :=
  let biased := ((bits >>> 52) &&& 0x7ff).toNat
  let fraction := (bits &&& 0xfffffffffffff).toNat
  if biased = 0 then ⟨fraction, -1074, false⟩
  else ⟨0x10000000000000 + fraction, (biased : Int) - 1075, decide (fraction = 0 ∧ biased > 1)⟩

/-- Compare `a * 10 ^ i` with `n * 2 ^ j` exactly. -/
def compareScaled (a : Nat) (i : Int) (n : Nat) (j : Int) : Ordering :=
  compare (a * tens i * twos (-j)) (n * twos j * tens (-i))

/-- Whether a decimal lies among the reals that round to the number. -/
def identifiedBy (x : Binary) (d : Decimal) : Bool :=
  let low := if x.narrowBelow then 4 * x.m - 1 else 4 * x.m - 2
  let high := 4 * x.m + 2
  let closed := decide (x.m % 2 = 0)
  let atLow := compareScaled d.digits d.exponent low (x.q - 2)
  let atHigh := compareScaled d.digits d.exponent high (x.q - 2)
  (atLow == .gt || (closed && atLow == .eq)) && (atHigh == .lt || (closed && atHigh == .eq))

/-- The greatest multiple of `10 ^ e` that is not above the number, in units of `10 ^ e`. -/
def floorAt (x : Binary) (e : Int) : Nat :=
  (x.m * twos x.q * tens (-e)) / (twos (-x.q) * tens e)

/-- The point of the grid `10 ^ e` that identifies the number, if one does. -/
def pointAt? (x : Binary) (e : Int) : Option Decimal :=
  let below : Decimal := ⟨x.floorAt e, e⟩
  let above : Decimal := ⟨below.digits + 1, e⟩
  match x.identifiedBy below, x.identifiedBy above with
  | true, true =>
    match compareScaled (below.digits + above.digits) e (2 * x.m) x.q with
    | .lt => some above
    | .gt => some below
    | .eq => some (if below.digits % 2 = 0 then below else above)
  | true, false => some below
  | false, true => some above
  | false, false => none

/-- The first grid at or below `10 ^ e` with an identifying point, among `count` of them. -/
def search (x : Binary) : Nat → Int → Option Decimal
  | 0, _ => none
  | count + 1, e => (x.pointAt? e).or (search x count (e - 1))

/-- The exact value. -/
def exact (x : Binary) : Decimal :=
  ⟨x.m * twos x.q * Nat.pow 5 (-x.q).toNat, min 0 x.q⟩

/-- The decimal with the fewest digits that identifies a positive number. No finite number reaches
`10 ^ 309` or lies below `10 ^ -324`, so the search passes every grid that can matter. -/
def shortest (x : Binary) : Decimal := (x.search 700 309).getD x.exact

end Binary

namespace Decimal

/-- The digits without trailing zeros, which go into the exponent. -/
def strip : Nat → Decimal → Decimal
  | 0, d => d
  | fuel + 1, d =>
    if d.digits % 10 = 0 ∧ d.digits ≠ 0 then strip fuel ⟨d.digits / 10, d.exponent + 1⟩ else d

/-- `n` zeros. -/
def zeros (n : Nat) : String := String.ofList (List.replicate n '0')

/-- The text of a positive decimal. -/
def text (d : Decimal) : String :=
  let d := d.strip 400
  let digits := toString d.digits
  let count := (digits.length : Int)
  let point := d.exponent + count
  if -5 < point ∧ point ≤ 16 then
    if d.exponent ≥ 0 then digits ++ zeros d.exponent.toNat ++ ".0"
    else if point > 0 then
      String.ofList (digits.toList.take point.toNat) ++ "." ++
        String.ofList (digits.toList.drop point.toNat)
    else "0." ++ zeros (-point).toNat ++ digits
  else
    let lead := String.ofList (digits.toList.take 1)
    let tail := String.ofList (digits.toList.drop 1)
    let mantissa := if tail.isEmpty then lead else lead ++ "." ++ tail
    let power := point - 1
    mantissa ++ (if power < 0 then "e-" else "e+") ++ toString power.natAbs

end Decimal

/-- The text of the finite number that 64 bits stand for; zero keeps its sign. -/
def binaryText (bits : UInt64) : String :=
  let sign := if bits >>> 63 = 1 then "-" else ""
  let x := Binary.ofBits bits
  sign ++ (if x.m = 0 then "0.0" else x.shortest.text)

end Narrative
