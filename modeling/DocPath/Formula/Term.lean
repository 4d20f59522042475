import DocPath.Json.Basic

/-!
# Terms of formulas

The subject of a formula is the value that it is asked of, written `$`. A term reads parts of the
subject, compares and combines values, and calls functions.
-/

namespace DocPath.Formula

/-- A step from a value to a part of it. -/
inductive Access
  | key (name : String)
  | index (position : Int)
deriving DecidableEq

inductive Comparison
  | eq | ne | lt | le | gt | ge
deriving DecidableEq

inductive Arithmetic
  | add | sub | mul | div | rem
deriving DecidableEq

/-- The name of an operator in messages. -/
def Arithmetic.text : Arithmetic → String
  | add => "Add"
  | sub => "Sub"
  | mul => "Mul"
  | div => "Div"
  | rem => "Rem"

/-- A term of a formula. -/
inductive Term
  | literal (value : Scalar)
  | subject (path : List Access)
  | not (t : Term)
  | neg (t : Term)
  | and (left right : Term)
  | or (left right : Term)
  | compare (op : Comparison) (left right : Term)
  | arith (op : Arithmetic) (left right : Term)
  | call (function : String) (args : List Term)

end DocPath.Formula
