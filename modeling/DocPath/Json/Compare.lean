import DocPath.Json.Basic

/-!
# Order of values

Numbers, strings and booleans are ordered among themselves, strings by code point. A number and a
string are ordered where the string spells a number. Nothing else is comparable.
-/

namespace DocPath.Json

/-- The order of two comparable values. -/
def compare : Json → Json → Option Ordering
  | string s, string t => some (Ord.compare s t)
  | number m, number n => some (m.compare n)
  | bool a, bool b => some (Ord.compare a b)
  | number n, string s => do (Extended.finite n.toDouble).compare (← Extended.ofNumeral? s.toList)
  | string s, number n => do (← Extended.ofNumeral? s.toList).compare (.finite n.toDouble)
  | _, _ => none

/-- Equality that looks at the value of numbers and not at their kind. -/
def equal : Json → Json → Bool
  | number m, number n => m.compare n == .eq
  | v, w => v.same w

end DocPath.Json
