import DocPath.Formula.Error
import DocPath.Json.Compare
import DocPath.Unicode.Case

/-!
# Functions of formulas

A function checks the number of its arguments first and their kinds after that.
-/

namespace DocPath.Formula

/-- A function that formulas can call. -/
inductive Function
  | lower
  | upper
  | length
  | contains
  | startsWith
  | endsWith
  | matchesPattern
deriving DecidableEq

namespace Function

def name : Function → String
  | lower => "lower"
  | upper => "upper"
  | length => "length"
  | contains => "contains"
  | startsWith => "starts_with"
  | endsWith => "ends_with"
  | matchesPattern => "matches"

def all : List Function :=
  [lower, upper, length, contains, startsWith, endsWith, matchesPattern]

def named? (name : String) : Option Function :=
  all.find? fun f ↦ f.name = name

@[simp] theorem named?_name (f : Function) : named? f.name = some f := by
  cases f <;> decide

/-- How many arguments the function takes. -/
def arity : Function → Nat
  | lower => 1
  | upper => 1
  | length => 1
  | _ => 2

/-- The string that an argument is. -/
def text (f : Function) : Json → Except FormulaError String
  | .string s => .ok s
  | v => .error (.stringExpected f.name v)

end Function

/-- Whether the first text occurs in the second. -/
def occursIn (needle : List Char) : List Char → Bool
  | [] => needle.isEmpty
  | c :: rest => needle.isPrefixOf (c :: rest) || occursIn needle rest

/-- How many characters, items or entries a value has. -/
def lengthOf (v : Json) : Except FormulaError Json :=
  match v with
  | .array items => .ok (.ofNat items.length)
  | .object entries => .ok (.ofNat entries.length)
  | .string s => .ok (.ofNat s.length)
  | v => .error (.noLength v)

/-- Whether a string has another in it, an array an equal item, or an object a key. -/
def containsValue (container item : Json) : Except FormulaError Bool :=
  match container, item with
  | .string s, .string t => .ok (occursIn t.toList s.toList)
  | .array items, v => .ok (items.any fun w ↦ w.equal v)
  | .object entries, .string k => .ok (Entries.contains entries k)
  | v, w => .error (.cannotContain v w)

/-- The value of a function with one argument. -/
def Function.apply1 (f : Function) (v : Json) : Except FormulaError Json :=
  match f with
  | .lower => do return .string (Unicode.toLower (← f.text v))
  | .upper => do return .string (Unicode.toUpper (← f.text v))
  | .length => lengthOf v
  | f => .error (.argumentCount f.name f.arity 1)

/-- The value of a function with two arguments. -/
def Function.apply2 (f : Function) (v w : Json) : Except FormulaError Json :=
  match f with
  | .contains => do return .bool (← containsValue v w)
  | .startsWith => do
    let s ← f.text v
    let t ← f.text w
    return .bool (t.toList.isPrefixOf s.toList)
  | .endsWith => do
    let s ← f.text v
    let t ← f.text w
    return .bool (t.toList.isSuffixOf s.toList)
  | .matchesPattern => do
    let source ← f.text w
    match Regex.compile source {} with
    | .ok r => return .bool (r.isMatch (← f.text v))
    | .error e => throw (.badPattern source e)
  | f => .error (.argumentCount f.name f.arity 2)

/-- The value of a function. -/
def Function.apply (f : Function) (args : List Json) : Except FormulaError Json :=
  match args with
  | [v] => f.apply1 v
  | [v, w] => f.apply2 v w
  | args => .error (.argumentCount f.name f.arity args.length)

/-- The value of a call. -/
def invoke (name : String) (args : List Json) : Except FormulaError Json :=
  match Function.named? name with
  | some f => f.apply args
  | none => .error (.unknownFunction name)

end DocPath.Formula
