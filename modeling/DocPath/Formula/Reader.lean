import DocPath.Formula.Term
import DocPath.Text.Scan

/-!
# Reading formulas

From the loosest to the tightest: `||`, `&&`, `!`, one comparison, `+ -`, `* / %`, unary `-`, and
operands: literals, the subject with its accesses, calls, and terms in parentheses. Binary operators
associate to the left, and a comparison takes no comparison as an operand.

The functions below call one another on what is left of the text. Between two characters consumed
there are at most eight calls, so nine for every character are more than enough.
-/

namespace DocPath.Formula

open Text (skipBlanks)

/-- The number of bytes of a text. -/
def byteLength : List Char → Nat
  | [] => 0
  | c :: rest => c.utf8Size + byteLength rest

/-- The text after a character that has to come first. Offsets count from the start of the formula,
of which `size` is the length in bytes. -/
def expect (size : Nat) (c : Char) (text : List Char) : Except SyntaxError (List Char) :=
  match text with
  | d :: rest => if d = c then .ok rest else .error (.expected c (size - byteLength text))
  | [] => .error (.expected c size)

/-! ### Operands -/

/-- An unsigned number. A point that a second point follows is not part of it. A decimal beyond the
largest double is read as null. -/
def scanNumber (text : List Char) : Except SyntaxError (Scalar × List Char) :=
  let whole := text.takeWhile Char.isDigit
  match text.dropWhile Char.isDigit with
  | '.' :: '.' :: rest => integer whole ('.' :: '.' :: rest)
  | '.' :: rest =>
    let fraction := rest.takeWhile Char.isDigit
    let digits := digitsValue (digitsValue 0 whole) fraction
    let value := match Double.ofDecimal false digits (-(fraction.length : Int)) with
      | .finite d => Scalar.number (.double d)
      | _ => .null
    .ok (value, rest.dropWhile Char.isDigit)
  | rest => integer whole rest
where
  /-- An integer, which has to be one of the signed range. -/
  integer (digits rest : List Char) : Except SyntaxError (Scalar × List Char) :=
    match Text.int64? digits with
    | some n => .ok (.number (.ofInt n), rest)
    | none => .error .literalOutOfRange

/-- The inside of a bracket of the subject. -/
def scanBracket (text : List Char) : Except SyntaxError (Access × List Char) :=
  match text with
  | '"' :: rest => do
    let (name, rest) ← Text.scanQuoted '"' rest
    return (.key (String.ofList name), rest)
  | '\'' :: rest => do
    let (name, rest) ← Text.scanQuoted '\'' rest
    return (.key (String.ofList name), rest)
  | text => do
    let (n, rest) ← Text.scanInt text
    return (.index n, rest)

/-- The accesses of the subject. Each one consumes a character. -/
def scanAccesses (size : Nat) :
    (steps : Nat) → List Char → Except SyntaxError (List Access × List Char)
  | 0, text => .ok ([], text)
  | steps + 1, text =>
    match text with
    | '.' :: rest => do
      let (name, rest) ← Text.scanIdentifier rest
      let (path, rest) ← scanAccesses size steps rest
      return (.key name :: path, rest)
    | '[' :: rest => do
      let (access, rest) ← scanBracket (skipBlanks rest)
      let rest ← expect size ']' (skipBlanks rest)
      let (path, rest) ← scanAccesses size steps rest
      return (access :: path, rest)
    | text => .ok ([], text)

/-- The subject, after its sign. A name may follow at once. -/
def scanSubject (size : Nat) (text : List Char) : Except SyntaxError (Term × List Char) := do
  match text with
  | c :: _ =>
    if Text.isIdentifierChar c then
      let (name, rest) ← Text.scanIdentifier text
      let (path, rest) ← scanAccesses size rest.length rest
      return (.subject (.key name :: path), rest)
    else
      let (path, rest) ← scanAccesses size text.length text
      return (.subject path, rest)
  | [] => return (.subject [], [])

/-- The literal that a word stands for. -/
def keyword? : String → Option Scalar
  | "true" => some (.bool true)
  | "false" => some (.bool false)
  | "null" => some .null
  | "nil" => some .null
  | _ => none

/-- The comparison at the front of a text. -/
def comparison? : List Char → Option (Comparison × List Char)
  | '=' :: '=' :: rest => some (.eq, rest)
  | '!' :: '=' :: rest => some (.ne, rest)
  | '<' :: '=' :: rest => some (.le, rest)
  | '>' :: '=' :: rest => some (.ge, rest)
  | '<' :: rest => some (.lt, rest)
  | '>' :: rest => some (.gt, rest)
  | _ => none

/-! ### Terms -/

mutual

/-- Disjunctions. -/
def readOr (size : Nat) :
    (steps : Nat) → List Char → Except SyntaxError (Term × List Char)
  | 0, _ => .error .operandExpected
  | steps + 1, text => do
    let (left, rest) ← readAnd size steps text
    readOrs size steps left rest

def readOrs (size : Nat) :
    (steps : Nat) → Term → List Char → Except SyntaxError (Term × List Char)
  | 0, _, _ => .error .operandExpected
  | steps + 1, left, text => do
    match skipBlanks text with
    | '|' :: '|' :: rest =>
      let (right, rest) ← readAnd size steps rest
      readOrs size steps (.or left right) rest
    | rest => return (left, rest)

/-- Conjunctions. -/
def readAnd (size : Nat) :
    (steps : Nat) → List Char → Except SyntaxError (Term × List Char)
  | 0, _ => .error .operandExpected
  | steps + 1, text => do
    let (left, rest) ← readNot size steps text
    readAnds size steps left rest

def readAnds (size : Nat) :
    (steps : Nat) → Term → List Char → Except SyntaxError (Term × List Char)
  | 0, _, _ => .error .operandExpected
  | steps + 1, left, text => do
    match skipBlanks text with
    | '&' :: '&' :: rest =>
      let (right, rest) ← readNot size steps rest
      readAnds size steps (.and left right) rest
    | rest => return (left, rest)

/-- Negations of truth. -/
def readNot (size : Nat) :
    (steps : Nat) → List Char → Except SyntaxError (Term × List Char)
  | 0, _ => .error .operandExpected
  | steps + 1, text => do
    match skipBlanks text with
    | '!' :: '=' :: rest => readCompare size steps ('!' :: '=' :: rest)
    | '!' :: rest =>
      let (t, rest) ← readNot size steps rest
      return (.not t, rest)
    | rest => readCompare size steps rest

/-- Comparisons. -/
def readCompare (size : Nat) :
    (steps : Nat) → List Char → Except SyntaxError (Term × List Char)
  | 0, _ => .error .operandExpected
  | steps + 1, text => do
    let (left, rest) ← readSum size steps text
    let rest := skipBlanks rest
    match comparison? rest with
    | some (op, rest) =>
      let (right, rest) ← readSum size steps rest
      return (.compare op left right, rest)
    | none => return (left, rest)

/-- Sums. -/
def readSum (size : Nat) :
    (steps : Nat) → List Char → Except SyntaxError (Term × List Char)
  | 0, _ => .error .operandExpected
  | steps + 1, text => do
    let (left, rest) ← readProduct size steps text
    readSums size steps left rest

def readSums (size : Nat) :
    (steps : Nat) → Term → List Char → Except SyntaxError (Term × List Char)
  | 0, _, _ => .error .operandExpected
  | steps + 1, left, text => do
    match skipBlanks text with
    | '+' :: rest =>
      let (right, rest) ← readProduct size steps rest
      readSums size steps (.arith .add left right) rest
    | '-' :: rest =>
      let (right, rest) ← readProduct size steps rest
      readSums size steps (.arith .sub left right) rest
    | rest => return (left, rest)

/-- Products. -/
def readProduct (size : Nat) :
    (steps : Nat) → List Char → Except SyntaxError (Term × List Char)
  | 0, _ => .error .operandExpected
  | steps + 1, text => do
    let (left, rest) ← readUnary size steps text
    readProducts size steps left rest

def readProducts (size : Nat) :
    (steps : Nat) → Term → List Char → Except SyntaxError (Term × List Char)
  | 0, _, _ => .error .operandExpected
  | steps + 1, left, text => do
    match skipBlanks text with
    | '*' :: rest =>
      let (right, rest) ← readUnary size steps rest
      readProducts size steps (.arith .mul left right) rest
    | '/' :: rest =>
      let (right, rest) ← readUnary size steps rest
      readProducts size steps (.arith .div left right) rest
    | '%' :: rest =>
      let (right, rest) ← readUnary size steps rest
      readProducts size steps (.arith .rem left right) rest
    | rest => return (left, rest)

/-- Negations of numbers. -/
def readUnary (size : Nat) :
    (steps : Nat) → List Char → Except SyntaxError (Term × List Char)
  | 0, _ => .error .operandExpected
  | steps + 1, text => do
    match skipBlanks text with
    | '-' :: rest =>
      let (t, rest) ← readUnary size steps rest
      return (.neg t, rest)
    | rest => readPrimary size steps rest

/-- Operands. -/
def readPrimary (size : Nat) :
    (steps : Nat) → List Char → Except SyntaxError (Term × List Char)
  | 0, _ => .error .operandExpected
  | steps + 1, text => do
    match skipBlanks text with
    | '(' :: rest =>
      let (t, rest) ← readOr size steps rest
      return (t, ← expect size ')' (skipBlanks rest))
    | '"' :: rest =>
      let (s, rest) ← Text.scanQuoted '"' rest
      return (.literal (.string (String.ofList s)), rest)
    | '\'' :: rest =>
      let (s, rest) ← Text.scanQuoted '\'' rest
      return (.literal (.string (String.ofList s)), rest)
    | '$' :: rest => scanSubject size rest
    | c :: rest =>
      if c.isDigit then
        let (value, rest) ← scanNumber (c :: rest)
        return (.literal value, rest)
      else if Text.isIdentifierChar c then
        let (name, rest) ← Text.scanIdentifier (c :: rest)
        match keyword? name with
        | some value => return (.literal value, rest)
        | none =>
          let rest ← expect size '(' (skipBlanks rest)
          match skipBlanks rest with
          | ')' :: rest => return (.call name [], rest)
          | rest =>
            let (args, rest) ← readArgs size steps rest
            return (.call name args, rest)
      else throw .operandExpected
    | [] => throw .operandExpected

/-- One or more arguments, up to the closing parenthesis. -/
def readArgs (size : Nat) :
    (steps : Nat) → List Char → Except SyntaxError (List Term × List Char)
  | 0, _ => .error .operandExpected
  | steps + 1, text => do
    let (arg, rest) ← readOr size steps text
    match skipBlanks rest with
    | ',' :: rest =>
      let (args, rest) ← readArgs size steps rest
      return (arg :: args, rest)
    | rest => return ([arg], ← expect size ')' rest)

end

/-- The term that a whole text spells. -/
def Term.read (text : List Char) : Except SyntaxError Term := do
  let (t, rest) ← readOr (byteLength text) (9 * (text.length + 1)) text
  if (skipBlanks rest).isEmpty then return t else throw .trailingInput

end DocPath.Formula
