import DocPath.Json.Number

/-!
# Integers in texts

Two readings of a whole text as an integer: a signed one of 64 bits, and a place in a sequence. Both
allow a plus sign, and zeros in front.
-/

namespace DocPath.Text

/-- The number of one or more decimal digits. -/
def natural? (digits : List Char) : Option Nat :=
  if digits.isEmpty || !digits.all Char.isDigit then none else some (digitsValue 0 digits)

/-- The integer of the signed range that the text spells. -/
def int64? (text : List Char) : Option Int := do
  let n : Int ← match text with
    | '-' :: digits => (natural? digits).map fun n ↦ -(n : Int)
    | '+' :: digits => (natural? digits).map Int.ofNat
    | digits => (natural? digits).map Int.ofNat
  if Number.IsInt64 n then some n else none

/-- The place that the text spells; places fit 64 bits. -/
def place? (text : List Char) : Option Nat := do
  let n ← match text with
    | '+' :: digits => natural? digits
    | digits => natural? digits
  if n < 0x10000000000000000 then some n else none

end DocPath.Text
