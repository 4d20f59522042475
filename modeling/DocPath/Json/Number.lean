import DocPath.Double.Decimal
import DocPath.Double.Shortest

/-!
# Numbers of documents

A number is an **integer** of 64 bits, signed or unsigned, or a **double**. The two kinds are kept
apart: `1` and `1.0` are written differently and are equal only where numbers are compared as
numbers. Two integers that both fit the signed range compare exactly; any other pair compares as
doubles.
-/

namespace DocPath

/-- The integers a document can hold: those of a signed or an unsigned word of 64 bits. -/
def Number.InRange (n : Int) : Prop :=
  -0x8000000000000000 ≤ n ∧ n < 0x10000000000000000

instance (n : Int) : Decidable (Number.InRange n) :=
  inferInstanceAs (Decidable (_ ∧ _))

/-- A number of a document. -/
inductive Number
  | integer (value : Int) (inRange : Number.InRange value)
  | double (value : Double)
deriving DecidableEq

namespace Number

/-- The integer where a document can hold it, else the nearest double. -/
def ofInt (n : Int) : Number :=
  if h : InRange n then integer n h else double (Double.ofInt n)

def ofNat (n : Nat) : Number :=
  ofInt n

/-- The integers of a signed word of 64 bits. -/
def IsInt64 (n : Int) : Prop :=
  -0x8000000000000000 ≤ n ∧ n < 0x8000000000000000

instance (n : Int) : Decidable (IsInt64 n) :=
  inferInstanceAs (Decidable (_ ∧ _))

/-- The integer, where the number is one of the signed range. -/
def int64? : Number → Option Int
  | integer n _ => if IsInt64 n then some n else none
  | double _ => none

theorem int64?_ofInt {n : Int} (h : IsInt64 n) : (ofInt n).int64? = some n := by
  have hr : InRange n := ⟨h.1, by have := h.2; omega⟩
  simp [ofInt, hr, int64?, h]

/-- The integer, where the number is one and not negative. -/
def nat? : Number → Option Nat
  | integer n _ => if 0 ≤ n then some n.toNat else none
  | double _ => none

/-- The nearest double. -/
def toDouble : Number → Double
  | integer n _ => Double.ofInt n
  | double d => d

def isZero (n : Number) : Bool :=
  n.toDouble.isZero

/-- Numerical order. -/
def compare (a b : Number) : Ordering :=
  match a.int64?, b.int64? with
  | some m, some n => Ord.compare m n
  | _, _ => a.toDouble.compare b.toDouble

/-- Equality within one kind: an integer equals no double. -/
def same : Number → Number → Bool
  | integer m _, integer n _ => m == n
  | double a, double b => a.compare b == .eq
  | _, _ => false

/-- The decimal digits of an integer, after a minus sign where it is negative. -/
def intText (n : Int) : List Char :=
  if n < 0 then '-' :: Nat.toDigits 10 n.natAbs else Nat.toDigits 10 n.natAbs

/-- The number as a document writes it. -/
def text : Number → List Char
  | integer n _ => intText n
  | double d => d.text.toList

end Number

end DocPath
