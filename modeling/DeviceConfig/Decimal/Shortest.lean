/-!
The decimal numbers with fewest digits that a binary number of 64 bits can be read back from.

A finite binary number is `mantissa * 2 ^ exponent`. The reals that round to it form an interval,
whose ends belong to it when the mantissa is even. Among the decimal numbers of `n` significant
digits the ones just below and just above the number are the only ones that can lie in the interval
without a nearer one lying in it too, so they are the only candidates.
-/

namespace DeviceConfig.Decimal

/-- A positive binary number `mantissa * 2 ^ exponent`. At the bottom of a binade the numbers below
    it lie twice as close as those above. -/
structure Binary where
  mantissa : Nat
  exponent : Int
  atBinadeStart : Bool
  deriving Repr, DecidableEq

/-- A positive decimal number `coefficient * 10 ^ exponent`. -/
structure Digits where
  coefficient : Nat
  exponent : Int
  deriving Repr, DecidableEq

/-- What a sequence of 64 bits means as a number. -/
inductive Reading where
  | nan
  | infinity (negative : Bool)
  | zero (negative : Bool)
  | finite (negative : Bool) (size : Binary)
  deriving Repr, DecidableEq

def Reading.ofBits (bits : UInt64) : Reading :=
  let negative := bits >>> 63 == 1
  let biased := ((bits >>> 52) &&& 0x7FF).toNat
  let fraction := (bits &&& 0xFFFFFFFFFFFFF).toNat
  if biased == 0x7FF then if fraction == 0 then .infinity negative else .nan
  else if biased == 0 then
    if fraction == 0 then .zero negative else .finite negative ⟨fraction, -1074, false⟩
  else .finite negative ⟨fraction + Nat.pow 2 52, biased - 1075, fraction == 0 && biased ≠ 1⟩

structure Ratio where
  num : Nat
  den : Nat
  deriving Repr, DecidableEq

def Ratio.lt (a b : Ratio) : Bool := a.num * b.den < b.num * a.den

def Ratio.le (a b : Ratio) : Bool := a.num * b.den ≤ b.num * a.den

def Ratio.scaled (n base : Nat) (exponent : Int) : Ratio :=
  if exponent < 0 then ⟨n, base.pow exponent.natAbs⟩ else ⟨n * base.pow exponent.natAbs, 1⟩

def Binary.toRatio (x : Binary) : Ratio := .scaled x.mantissa 2 x.exponent

/-- The lower end of the interval of reals that round to the number. -/
def Binary.low (x : Binary) : Ratio :=
  if x.atBinadeStart then .scaled (4 * x.mantissa - 1) 2 (x.exponent - 2)
  else .scaled (2 * x.mantissa - 1) 2 (x.exponent - 1)

def Binary.high (x : Binary) : Ratio := .scaled (2 * x.mantissa + 1) 2 (x.exponent - 1)

/-- Whether a number rounds to `x`: a half goes to the even mantissa. -/
def Binary.holds (x : Binary) (r : Ratio) : Bool :=
  if x.mantissa % 2 == 0 then x.low.le r && r.le x.high else x.low.lt r && r.lt x.high

def Digits.toRatio (d : Digits) : Ratio := .scaled d.coefficient 10 d.exponent

def digitCount (n : Nat) : Nat := (Nat.toDigits 10 n).length

/-- The exponent of ten in scientific notation. -/
def Ratio.magnitude (r : Ratio) : Int :=
  digitCount (r.num * Nat.pow 10 400 / r.den) - 401

/-- What to take of two decimals at the same distance. -/
inductive Tie where
  | up
  | even
  deriving Repr, DecidableEq

/-- The candidate on the grid of multiples of `10 ^ exponent` that reads back as `x`. -/
def Binary.onGrid? (x : Binary) (tie : Tie) (exponent : Int) : Option Digits :=
  let exact := x.toRatio
  let cell := if exponent < 0 then exact.num * Nat.pow 10 exponent.natAbs / exact.den
    else exact.num / (exact.den * Nat.pow 10 exponent.natAbs)
  let below : Digits := ⟨cell, exponent⟩
  let above : Digits := ⟨cell + 1, exponent⟩
  match cell ≠ 0 && x.holds below.toRatio, x.holds above.toRatio with
  | false, false => none
  | true, false => some below
  | false, true => some above
  | true, true =>
    let middle := Ratio.scaled (10 * cell + 5) 10 (exponent - 1)
    if exact.lt middle then some below
    else if middle.lt exact then some above
    else
      match tie with
      | .up => some above
      | .even => some (if cell % 2 == 0 then below else above)

/-- The first grid that holds a candidate, from coarse to fine. -/
def Binary.searchGrids (x : Binary) (tie : Tie) (finest : Int) : Nat → Digits
  | 0 => (x.onGrid? tie finest).getD ⟨0, 0⟩
  | coarser + 1 =>
    (x.onGrid? tie (finest + (coarser + 1 : Nat))).getD (x.searchGrids tie finest coarser)

/-- The digits without zeros at the end. -/
def stripZeros (coefficient : Nat) (exponent : Int) : Digits :=
  if h : coefficient ≠ 0 ∧ coefficient % 10 = 0 then stripZeros (coefficient / 10) (exponent + 1)
  else ⟨coefficient, exponent⟩
termination_by coefficient
decreasing_by omega

/-- The fewest digits that read back as `x`, and of those the nearest to it. Seventeen digits are
    always enough. -/
def Binary.shortest (x : Binary) (tie : Tie) : Digits :=
  let found := x.searchGrids tie (x.toRatio.magnitude - 16) 16
  stripZeros found.coefficient found.exponent

end DeviceConfig.Decimal
