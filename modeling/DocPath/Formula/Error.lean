import DocPath.Formula.Term
import DocPath.Json.Printer
import DocPath.SyntaxError

/-!
# Failures of formulas

A formula fails where its text spells no term, where an operator or a function does not apply to its
operands, and where a result is not a finite number.
-/

namespace DocPath

/-- Why a formula has no value. -/
inductive FormulaError
  | malformed (source : String) (e : SyntaxError)
  | cannotNegate (v : Json)
  | cannotCompare (left right : Json)
  | cannotApply (op : Formula.Arithmetic) (left right : Json)
  | divisionByZero
  /-- The result is an infinity, or no number; this is its name. -/
  | notFinite (result : String)
  | unknownFunction (name : String)
  | argumentCount (function : String) (takes given : Nat)
  | stringExpected (function : String) (given : Json)
  | noLength (v : Json)
  | cannotContain (container item : Json)
  | badPattern (source : String) (e : RegexError)

namespace FormulaError

/-- What is wrong, without saying that a formula is. -/
def cause : FormulaError → String
  | malformed source e => "`" ++ source ++ "`: " ++ e.message
  | cannotNegate v => "cannot negate " ++ v.compact
  | cannotCompare a b => "cannot compare " ++ a.compact ++ " with " ++ b.compact
  | cannotApply op a b => "cannot apply " ++ op.text ++ " to " ++ a.compact ++ " and " ++ b.compact
  | divisionByZero => "division by zero"
  | notFinite result => result ++ " is not a finite number"
  | unknownFunction name => "unknown function `" ++ name ++ "`"
  | argumentCount function takes given =>
    function ++ s!"() takes {takes} arguments, got {given}"
  | stringExpected function given => function ++ "() expects a string, got " ++ given.compact
  | noLength v => "length() of " ++ v.compact
  | cannotContain container item => "contains(" ++ container.compact ++ ", " ++ item.compact ++ ")"
  | badPattern source e => "bad pattern `" ++ source ++ "`: " ++ e.message

def message (e : FormulaError) : String :=
  "formula error: " ++ e.cause

end FormulaError

end DocPath
