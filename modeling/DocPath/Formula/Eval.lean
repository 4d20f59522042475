import DocPath.Formula.Function
import DocPath.Text.Integer

/-!
# Values of formulas

Arithmetic on two integers of the signed range is exact as long as the result stays in that range;
otherwise both operands are taken as doubles. A division of integers is exact only where it leaves
no remainder. A divisor of zero is an error, and so is a result that is not finite.
-/

namespace DocPath.Formula

/-! ### The subject -/

/-- The item at a position; a negative position counts from the end. -/
def itemAt? (items : List Json) (position : Int) : Option Json :=
  let i := if position < 0 then items.length + position else position
  if i < 0 then none else items[i.toNat]?

/-- A part of a value. Positions that spell a name are keys of objects, and names that spell a
position are positions of arrays. -/
def Access.get? (a : Access) (v : Json) : Option Json :=
  match a, v with
  | key k, .object entries => Entries.get? entries k
  | key k, .array items => do items[← Text.place? k.toList]?
  | index i, .array items => itemAt? items i
  | index i, .object entries => Entries.get? entries (String.ofList (Number.intText i))
  | _, _ => none

/-- What the accesses lead to; where they lead nowhere, null. -/
def readPath (subject : Json) : List Access → Json
  | [] => subject
  | a :: path =>
    match a.get? subject with
    | some v => readPath v path
    | none => .null

/-! ### Arithmetic -/

/-- The integer result of an operation on two integers, where there is one. -/
def Arithmetic.exact? (op : Arithmetic) (m n : Int) : Option Int :=
  let result : Option Int := match op with
    | add => some (m + n)
    | sub => some (m - n)
    | mul => some (m * n)
    | div => if n ≠ 0 ∧ Int.tmod m n = 0 then some (Int.tdiv m n) else none
    | rem => if n ≠ 0 ∧ Number.IsInt64 (Int.tdiv m n) then some (Int.tmod m n) else none
  result.filter fun r ↦ decide (Number.IsInt64 r)

/-- The operation on doubles. -/
def Arithmetic.onDoubles : Arithmetic → Double → Double → Extended
  | add => Double.add
  | sub => Double.sub
  | mul => Double.mul
  | div => Double.div
  | rem => Double.rem

/-- A finite outcome as a value. -/
def finite : Extended → Except FormulaError Json
  | .finite d => .ok (.number (.double d))
  | x => .error (.notFinite (x.nonFiniteText.getD ""))

/-- The operation on numbers. -/
def Arithmetic.onNumbers (op : Arithmetic) (m n : Number) : Except FormulaError Json :=
  let exact : Option Int := do op.exact? (← m.int64?) (← n.int64?)
  match exact with
  | some r => .ok (.ofInt r)
  | none =>
    if (op = div ∨ op = rem) ∧ n.isZero then .error .divisionByZero
    else finite (op.onDoubles m.toDouble n.toDouble)

/-- The operation on values: strings can be added, and numbers combined in every way. -/
def Arithmetic.apply (op : Arithmetic) (v w : Json) : Except FormulaError Json :=
  match op, v, w with
  | add, .string s, .string t => .ok (.string (s ++ t))
  | op, .number m, .number n => op.onNumbers m n
  | op, v, w => .error (.cannotApply op v w)

/-- The number of the other sign. The least integer has none that is an integer of the signed
range. -/
def negate (v : Json) : Except FormulaError Json :=
  match v with
  | .number n =>
    match n.int64?.filter fun i ↦ decide (Number.IsInt64 (-i)) with
    | some i => .ok (.ofInt (-i))
    | none => .ok (.number (.double n.toDouble.neg))
  | v => .error (.cannotNegate v)

/-! ### Comparisons -/

/-- Whether an order is one that a comparison asks for. -/
def Comparison.admits : Comparison → Ordering → Bool
  | eq, o => o == .eq
  | ne, o => o != .eq
  | lt, o => o == .lt
  | le, o => o != .gt
  | gt, o => o == .gt
  | ge, o => o != .lt

/-- The comparison of two values. Any two values are equal or not. -/
def Comparison.apply (op : Comparison) (v w : Json) : Except FormulaError Bool :=
  match op with
  | eq => .ok (v.equal w)
  | ne => .ok (!v.equal w)
  | op =>
    match v.compare w with
    | some o => .ok (op.admits o)
    | none => .error (.cannotCompare v w)

/-! ### Terms -/

mutual

/-- The value of a term. Of two operands the left one comes first, and the right one of `&&` and
`||` only where it matters. -/
def Term.eval (subject : Json) : Term → Except FormulaError Json
  | .literal s => .ok (.scalar s)
  | .subject path => .ok (readPath subject path)
  | .not t => do return .bool (!(← t.eval subject).truthy)
  | .neg t => do negate (← t.eval subject)
  | .and left right => do
    let v ← left.eval subject
    if v.truthy then return .bool (← right.eval subject).truthy else return .bool false
  | .or left right => do
    let v ← left.eval subject
    if v.truthy then return .bool true else return .bool (← right.eval subject).truthy
  | .compare op left right => do
    let v ← left.eval subject
    let w ← right.eval subject
    return .bool (← op.apply v w)
  | .arith op left right => do
    let v ← left.eval subject
    let w ← right.eval subject
    op.apply v w
  | .call name args => do invoke name (← Term.evalAll subject args)

def Term.evalAll (subject : Json) : List Term → Except FormulaError (List Json)
  | [] => .ok []
  | t :: rest => do
    let v ← t.eval subject
    let vs ← Term.evalAll subject rest
    return v :: vs

end

end DocPath.Formula
