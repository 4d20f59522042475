import DocPath.Json.Number

/-!
# Reading the numerals of documents

A numeral is split into its digits first and valued after that. Digits are **absorbed** into a
significand as long as it fits an unsigned word of 64 bits; digits that no longer fit only shift the
exponent (before the point) or are dropped (after it). A numeral without point and exponent whose
digits all fit is an integer where the range allows it. Everything else is a double: the significand
is rounded, then multiplied or divided by a power of ten, so that long numerals can be off by a last
bit. A numeral beyond the largest double is refused.
-/

namespace DocPath

/-- A numeral cut at its sign, point and exponent mark. -/
structure Numeral where
  negative : Bool
  whole : List Char
  fraction : Option (List Char)
  exponent : Option (Bool × List Char)

namespace Numeral

/-! ### Splitting -/

/-- The digits after a point, if there is a point. One that is followed by no digit is refused. -/
def scanFraction : List Char → Option (Option (List Char) × List Char)
  | '.' :: rest =>
    let digits := rest.takeWhile Char.isDigit
    if digits.isEmpty then none else some (some digits, rest.dropWhile Char.isDigit)
  | rest => some (none, rest)

/-- Sign and digits after an exponent mark, if there is a mark. One without digits is refused. -/
def scanExponent : List Char → Option (Option (Bool × List Char) × List Char)
  | mark :: rest =>
    if mark == 'e' || mark == 'E' then
      let (negative, tail) := match rest with
        | '-' :: tail => (true, tail)
        | '+' :: tail => (false, tail)
        | tail => (false, tail)
      let digits := tail.takeWhile Char.isDigit
      if digits.isEmpty then none
      else some (some (negative, digits), tail.dropWhile Char.isDigit)
    else some (none, mark :: rest)
  | [] => some (none, [])

/-- The numeral at the front of a text, and what follows it. A leading zero stands alone. -/
def scan (text : List Char) : Option (Numeral × List Char) :=
  let (negative, body) := match text with
    | '-' :: rest => (true, rest)
    | rest => (false, rest)
  let whole := body.takeWhile Char.isDigit
  if whole.isEmpty || (whole.head? == some '0' && whole.length != 1) then none
  else do
    let (fraction, rest) ← scanFraction (body.dropWhile Char.isDigit)
    let (exponent, rest) ← scanExponent rest
    return (⟨negative, whole, fraction, exponent⟩, rest)

/-! ### Valuing -/

/-- The largest significand. -/
def maxSignificand : Nat := 0xffffffffffffffff

/-- Absorbs digits while the significand fits, and counts the digits absorbed. -/
def absorb (significand : Nat) : List Char → Nat × Nat
  | [] => (significand, 0)
  | c :: rest =>
    let next := 10 * significand + (c.toNat - '0'.toNat)
    if next ≤ maxSignificand then
      let (result, count) := absorb next rest
      (result, count + 1)
    else (significand, 0)

/-- Divides by a power of ten in steps that a double can hold. After a few steps nothing is left. -/
def scaleDown : (steps : Nat) → Double → (exponent : Nat) → Option Double
  | 0, d, _ => some d
  | steps + 1, d, exponent =>
    if exponent ≤ 308 then (d.div (Double.powerOfTen exponent)).finite?
    else if d.isZero then some d
    else do scaleDown steps (← (d.div (Double.powerOfTen 308)).finite?) (exponent - 308)

/-- A significand with an exponent of ten as a double, if it is not too large for one. -/
def scale (significand : Nat) (exponent : Int) : Option Double :=
  let d := Double.ofInt significand
  if exponent < 0 then scaleDown 4 d exponent.natAbs
  else if exponent ≤ 308 then (d.mul (Double.powerOfTen exponent.toNat)).finite?
  else if d.isZero then some d
  else none

/-- The largest exponent that is read digit by digit. -/
def maxExponent : Nat := 0x7fffffff

/-- The double of a numeral: its significand, and the exponent that the digits leave, to which the
written exponent is added. -/
def toDouble (n : Numeral) (significand : Nat) (exponent : Int) : Option Double :=
  let sign (d : Double) : Double := { d with negative := n.negative }
  match n.exponent with
  | none => (scale significand exponent).map sign
  | some (negative, digits) =>
    let size := digitsValue 0 digits
    if size ≤ maxExponent then
      (scale significand (if negative then exponent - size else exponent + size)).map sign
    else if significand ≠ 0 ∧ !negative then none
    else some (Double.zero n.negative)

/-- The number that a numeral stands for. -/
def value (n : Numeral) : Option Number :=
  let (significand, absorbed) := absorb 0 n.whole
  let dropped : Int := n.whole.length - absorbed
  match n.fraction, n.exponent with
  | none, none =>
    if dropped ≠ 0 then (n.toDouble significand dropped).map .double
    else if n.negative then
      if significand = 0 ∨ 0x8000000000000000 < significand then
        some (.double { Double.ofInt significand with negative := true })
      else some (.ofInt (-significand))
    else some (.ofInt significand)
  | none, some _ => (n.toDouble significand dropped).map .double
  | some digits, _ =>
    let (significand, absorbed) := absorb significand digits
    (n.toDouble significand (dropped - absorbed)).map .double

end Numeral

end DocPath
