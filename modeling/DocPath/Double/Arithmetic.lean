import DocPath.Double.Basic

/-!
# Arithmetic on doubles

Each operation is exact on units and then rounded once. A result may leave the finite range, so
results are `Extended`: a finite double, an infinity, or no number at all.
-/

namespace DocPath

/-- The outcome of an operation on doubles. -/
inductive Extended
  | finite (value : Double)
  | infinite (negative : Bool)
  | nan
deriving DecidableEq

namespace Extended

/-- The double, where the outcome is one. -/
def finite? : Extended → Option Double
  | finite d => some d
  | _ => none

/-- The name of an outcome that is not finite. -/
def nonFiniteText : Extended → Option String
  | finite _ => none
  | infinite false => some "inf"
  | infinite true => some "-inf"
  | nan => some "NaN"

/-- Numerical order; `nan` is comparable with nothing. -/
def compare : Extended → Extended → Option Ordering
  | nan, _ => none
  | _, nan => none
  | finite a, finite b => some (a.compare b)
  | infinite s, infinite t => some (if s == t then .eq else if s then .lt else .gt)
  | infinite s, finite _ => some (if s then .lt else .gt)
  | finite _, infinite t => some (if t then .gt else .lt)

end Extended

namespace Double

/-- The double nearest to `num / den` units with the given sign, or the infinity of that sign. -/
def round (negative : Bool) (num den : Nat) : Extended :=
  if h : rankOfQuotient num den < rankLimit then .finite ⟨negative, rankOfQuotient num den, h⟩
  else .infinite negative

/-- A sum of zero is negative only where both operands are. -/
def add (a b : Double) : Extended :=
  let sum := a.signedUnits + b.signedUnits
  let negative := if sum = 0 then a.negative && b.negative else sum < 0
  round negative sum.natAbs 1

def sub (a b : Double) : Extended :=
  add a b.neg

def mul (a b : Double) : Extended :=
  round (a.negative != b.negative) (a.units * b.units) one

def div (a b : Double) : Extended :=
  if b.isZero then
    if a.isZero then .nan else .infinite (a.negative != b.negative)
  else round (a.negative != b.negative) (a.units * one) b.units

/-- The remainder of the division toward zero, which has the sign of the dividend. -/
def rem (a b : Double) : Extended :=
  if b.isZero then .nan else round a.negative (a.units % b.units) 1

end Double

end DocPath
