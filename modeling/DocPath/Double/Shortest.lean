import DocPath.Double.Basic

/-!
# The shortest decimal that reads back

`Double.shortest` gives the decimal with the fewest significant digits that rounds to the double it
came from, and the nearest such decimal where there are two. On the grid of decimals with `n`
digits only the two neighbours of the value need be looked at: if any point of the grid rounds to
the double, so does one of them. Seventeen digits always suffice.

`Double.text` writes it: positionally from `0.00001` up to sixteen digits before the point, always
with a point; beyond, in scientific notation with a signed exponent.
-/

namespace DocPath

/-- The positive decimal `digits · 10 ^ exponent`. -/
structure Decimal where
  digits : Nat
  exponent : Int
deriving DecidableEq

namespace Decimal

/-- How many digits a number has in decimal notation. -/
def length (n : Nat) : Nat :=
  (Nat.toDigits 10 n).length

/-- The value as a quotient of natural numbers, in units. -/
def quotient (d : Decimal) : Nat × Nat :=
  if 0 ≤ d.exponent then (d.digits * Nat.pow 10 d.exponent.toNat * Double.one, 1)
  else (d.digits * Double.one, Nat.pow 10 d.exponent.natAbs)

/-- The rank of the double that the decimal rounds to. -/
def rank (d : Decimal) : Nat :=
  Double.rankOfQuotient d.quotient.1 d.quotient.2

/-- The exponent of the leading digit. -/
def leading (d : Decimal) : Int :=
  d.exponent + length d.digits - 1

/-- The digits without the zeros at their end, and the count of those zeros. -/
def stripZeros : (fuel : Nat) → (digits zeros : Nat) → Nat × Nat
  | 0, digits, zeros => (digits, zeros)
  | fuel + 1, digits, zeros =>
    if digits % 10 = 0 then stripZeros fuel (digits / 10) (zeros + 1) else (digits, zeros)

/-- The same value with no zero at the end of its digits. -/
def normalize (d : Decimal) : Decimal :=
  let (digits, zeros) := stripZeros (length d.digits) d.digits 0
  ⟨digits, d.exponent + zeros⟩

end Decimal

namespace Double

/-- The exponent of the leading decimal digit of a positive magnitude given in units. -/
def leadingExponent (units : Nat) : Int :=
  if one ≤ units then Decimal.length (units / one) - 1
  else -(Decimal.length ((one - 1) / units) : Int)

/-- The neighbours of a magnitude among the multiples of `10 ^ exponent`, with the nearer one
first; at the same distance the even one is first. -/
def neighbours (units : Nat) (exponent : Int) : Decimal × Decimal :=
  let (num, den) :=
    if 0 ≤ exponent then (units, one * Nat.pow 10 exponent.toNat)
    else (units * Nat.pow 10 exponent.natAbs, one)
  let floor := num / den
  let lower : Decimal := ⟨floor, exponent⟩
  let upper : Decimal := ⟨floor + 1, exponent⟩
  if nearestEven num den = floor then (lower, upper) else (upper, lower)

/-- The first decimal that rounds to the given rank, of at most the given number of further
digits. -/
def shortestFrom (rank units : Nat) (leading : Int) : (more digits : Nat) → Decimal
  | 0, digits => (neighbours units (leading - digits)).1
  | more + 1, digits =>
    let (near, far) := neighbours units (leading - digits)
    if near.rank = rank then near
    else if far.rank = rank then far
    else shortestFrom rank units leading more (digits + 1)

/-- The shortest decimal that rounds to the magnitude of a nonzero double. -/
def shortest (d : Double) : Decimal :=
  (shortestFrom d.rank d.units (leadingExponent d.units) 16 0).normalize

/-! ### Notation -/

/-- Digits with a point after the given number of them, padded with zeros on either side. -/
def positional (digits : List Char) (leading : Int) : List Char :=
  if leading < 0 then
    '0' :: '.' :: (List.replicate (leading.natAbs - 1) '0' ++ digits)
  else
    let whole := leading.toNat + 1
    if digits.length ≤ whole then
      digits ++ List.replicate (whole - digits.length) '0' ++ ['.', '0']
    else digits.take whole ++ '.' :: digits.drop whole

/-- One digit, the rest after a point if there are any, and the exponent with its sign. -/
def scientific (digits : List Char) (leading : Int) : List Char :=
  let significand := match digits with
    | first :: second :: rest => first :: '.' :: second :: rest
    | short => short
  let sign := if leading < 0 then '-' else '+'
  significand ++ 'e' :: sign :: Nat.toDigits 10 leading.natAbs

/-- The magnitude in the shortest notation that reads back. -/
def magnitudeText (d : Double) : List Char :=
  if d.isZero then ['0', '.', '0']
  else
    let decimal := d.shortest
    let digits := Nat.toDigits 10 decimal.digits
    if -5 ≤ decimal.leading ∧ decimal.leading ≤ 15 then positional digits decimal.leading
    else scientific digits decimal.leading

/-- The number in the shortest notation that reads back. -/
def text (d : Double) : String :=
  String.ofList (if d.negative then '-' :: d.magnitudeText else d.magnitudeText)

end Double

end DocPath
