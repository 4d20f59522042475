/-!
# Finite doubles by rank

A finite double is a sign and the **rank** of its magnitude: the place of that magnitude in the
increasing list of all finite magnitudes, zero first. With 52 stored bits the rank is the number
those bits and the exponent spell together, so the order of magnitudes is the order of ranks, and
the step from the largest significand to the next power of two is the step to the next rank.

Every finite magnitude is a whole number of **units**, one unit being the smallest positive
magnitude `2 ^ (-1074)`. Exact arithmetic is therefore arithmetic of natural numbers, and every
inexact result comes from one function, `Double.rankOfQuotient`, which rounds a quotient of
natural numbers to the nearest magnitude, a half going to the even rank.
-/

namespace DocPath

/-- How many stored significands share one exponent. -/
def Double.binade : Nat := 1 <<< 52

/-- How many units one is. -/
def Double.one : Nat := 1 <<< 1074

/-- The rank that infinity would have. -/
def Double.rankLimit : Nat := 2047 * Double.binade

/-- A finite binary floating-point number of 64 bits. -/
structure Double where
  negative : Bool
  rank : Nat
  rank_lt : rank < Double.rankLimit
deriving DecidableEq

namespace Double

/-! ### Magnitudes in units -/

/-- The magnitude of a rank, in units. Below the first full significand ranks are units; from there
each further binade doubles the step. -/
def unitsOfRank (rank : Nat) : Nat :=
  if rank < binade then rank else (binade + rank % binade) <<< (rank / binade - 1)

/-- The magnitude, in units. -/
def units (d : Double) : Nat :=
  unitsOfRank d.rank

/-- The value, in units. -/
def signedUnits (d : Double) : Int :=
  if d.negative then -(d.units : Int) else d.units

/-- Whether the number is `0.0` or `-0.0`. -/
def isZero (d : Double) : Bool :=
  d.rank == 0

/-- The zero of either sign. -/
def zero (negative : Bool) : Double :=
  ⟨negative, 0, by decide⟩

@[simp] theorem units_zero (negative : Bool) : (zero negative).units = 0 := by
  simp [units, zero, unitsOfRank, binade]

/-- The number of the other sign. -/
def neg (d : Double) : Double :=
  { d with negative := !d.negative }

@[simp] theorem neg_neg (d : Double) : d.neg.neg = d := by
  cases d; simp [neg]

/-! ### Rounding -/

/-- The integer nearest to `num / den`, a half going to the even one. -/
def nearestEven (num den : Nat) : Nat :=
  let floor := num / den
  let rest := 2 * (num % den)
  if rest < den then floor
  else if den < rest then floor + 1
  else floor + floor % 2

/-- The rank of the magnitude nearest to `num / den` units, a half going to the even rank. The
quotient is cut to 53 significant bits, and the count of binades below it is added back. A result
of `rankLimit` or more stands for infinity. -/
def rankOfQuotient (num den : Nat) : Nat :=
  let shift := (num / den).log2 - 52
  shift * binade + nearestEven num (den <<< shift)

/-- The largest finite magnitude where the quotient is beyond it, else the nearest one. -/
def saturating (negative : Bool) (num den : Nat) : Double :=
  ⟨negative, min (rankOfQuotient num den) (rankLimit - 1), by
    have : 0 < rankLimit := by decide
    omega⟩

/-- The double nearest to an integer. -/
def ofInt (n : Int) : Double :=
  saturating (n < 0) (n.natAbs * one) 1

/-! ### Order -/

/-- Numerical order; the two zeros are equal. -/
def compare (a b : Double) : Ordering :=
  Ord.compare a.signedUnits b.signedUnits

@[simp] theorem compare_self (d : Double) : d.compare d = .eq := by
  simp [compare]

end Double

end DocPath
