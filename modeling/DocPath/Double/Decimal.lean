import DocPath.Double.Arithmetic

/-!
# Doubles from decimal notation

`Double.ofDecimal` gives the double nearest to `digits · 10 ^ exponent`. Outside a generous range of
exponents the answer is zero or infinity whatever the digits are, so that powers of ten stay small.

`Extended.ofNumeral?` reads a numeral as people write one: an optional sign, then `inf`, `infinity`
or `nan` in any case, or digits with an optional point and an optional exponent. At least one digit
stands before or after the point.
-/

namespace DocPath

namespace Double

/-- The double nearest to `digits · 10 ^ exponent`. -/
def ofDecimal (negative : Bool) (digits : Nat) (exponent : Int) : Extended :=
  if digits = 0 then .finite (zero negative)
  else if exponent > 400 then .infinite negative
  else if exponent < -(400 + digits.log2 : Int) then .finite (zero negative)
  else if 0 ≤ exponent then round negative (digits * Nat.pow 10 exponent.toNat * one) 1
  else round negative (digits * one) (Nat.pow 10 exponent.natAbs)

/-- The double nearest to `10 ^ exponent`, the largest finite one where that is too large. -/
def powerOfTen (exponent : Nat) : Double :=
  saturating false (Nat.pow 10 exponent * one) 1

end Double

/-- The number that decimal digits spell after the digits already read. -/
def digitsValue (start : Nat) (digits : List Char) : Nat :=
  digits.foldl (fun n c ↦ 10 * n + (c.toNat - '0'.toNat)) start

namespace Extended

/-- An exponent mark with an optional sign and at least one digit, up to the end of the text; no
exponent at all is the exponent zero. -/
def exponent? : List Char → Option Int
  | [] => some 0
  | mark :: rest =>
    if mark != 'e' && mark != 'E' then none
    else
      let (negative, digits) := match rest with
        | '-' :: digits => (true, digits)
        | '+' :: digits => (false, digits)
        | digits => (false, digits)
      if digits.isEmpty || !digits.all Char.isDigit then none
      else
        let size : Int := digitsValue 0 digits
        some (if negative then -size else size)

/-- The magnitude of a numeral without its sign. -/
def unsignedNumeral? (negative : Bool) (text : List Char) : Option Extended :=
  let lower := String.ofList (text.map Char.toLower)
  if lower == "inf" || lower == "infinity" then some (.infinite negative)
  else if lower == "nan" then some .nan
  else
    let whole := text.takeWhile Char.isDigit
    let afterWhole := text.dropWhile Char.isDigit
    let (fraction, tail) := match afterWhole with
      | '.' :: rest => (rest.takeWhile Char.isDigit, rest.dropWhile Char.isDigit)
      | rest => ([], rest)
    if whole.isEmpty && fraction.isEmpty then none
    else do
      let shift ← exponent? tail
      some (Double.ofDecimal negative (digitsValue (digitsValue 0 whole) fraction)
        (shift - fraction.length))

/-- The number that a text spells, if it spells one. -/
def ofNumeral? (text : List Char) : Option Extended :=
  match text with
  | '-' :: rest => unsignedNumeral? true rest
  | '+' :: rest => unsignedNumeral? false rest
  | rest => unsignedNumeral? false rest

end Extended

end DocPath
