import DocPath.Proofs.Formula.Reading

/-!
# Spelling terms

How a term is written: keys and strings in quotes, operators between their operands, and a term in
parentheses where it is looser than what its place asks for. A `Style` leaves open what the grammar
leaves open: which quotes, which blanks around operators, and which terms are put in parentheses
that they do not need.

`Term.Spellable` are the terms that have a spelling. A literal is not negative, since a minus sign
in front of digits is an operator, and the name of a function is not that of a literal.
-/

namespace DocPath.Formula

/-- A way of writing terms. -/
structure Style where
  quote : Char
  isQuote : Text.IsQuote quote
  /-- What stands around binary operators and after commas. -/
  gap : List Char
  blank : ∀ c ∈ gap, Text.isBlank c
  /-- The terms that are put in parentheses wherever they stand. -/
  wraps : Term → Bool

def Comparison.symbol : Comparison → List Char
  | eq => ['=', '=']
  | ne => ['!', '=']
  | lt => ['<']
  | le => ['<', '=']
  | gt => ['>']
  | ge => ['>', '=']

def Arithmetic.symbol : Arithmetic → List Char
  | add => ['+']
  | sub => ['-']
  | mul => ['*']
  | div => ['/']
  | rem => ['%']

/-- The chain of an operator. -/
def Arithmetic.chain : Arithmetic → Chain
  | add => .sum
  | sub => .sum
  | mul => .product
  | div => .product
  | rem => .product

/-- How loosely a term is held together by its outermost operator. -/
def Term.level : Term → Level
  | literal _ => .operand
  | subject _ => .operand
  | not _ => .negation
  | neg _ => .sign
  | and _ _ => .conjunction
  | or _ _ => .disjunction
  | compare _ _ _ => .comparison
  | arith op _ _ => op.chain.level
  | call _ _ => .operand

/-- What an access has between its brackets. -/
def Access.inside (quote : Char) : Access → List Char
  | key name => Text.quoted quote name.toList
  | index i => Number.intText i

def Access.spell (quote : Char) (a : Access) : List Char :=
  '[' :: (a.inside quote ++ [']'])

def spellLiteral (quote : Char) : Scalar → List Char
  | .null => ['n', 'u', 'l', 'l']
  | .bool true => ['t', 'r', 'u', 'e']
  | .bool false => ['f', 'a', 'l', 's', 'e']
  | .number n => n.text
  | .string s => Text.quoted quote s.toList

namespace Style

variable (s : Style)

/-- Whether a term is put in parentheses at a place where terms of a level can stand. -/
def encloses (ℓ : Level) (t : Term) : Bool :=
  s.wraps t || ℓ.height < t.level.height

/-- A text in parentheses, if it is to have them. -/
def enclose (enclosed : Bool) (text : List Char) : List Char :=
  if enclosed then '(' :: (text ++ [')']) else text

/-- An operator between two operands. -/
def between (left symbol right : List Char) : List Char :=
  left ++ (s.gap ++ (symbol ++ (s.gap ++ right)))

mutual

/-- A term without parentheses around it. -/
def bare : Term → List Char
  | .literal v => spellLiteral s.quote v
  | .subject path => '$' :: path.flatMap (Access.spell s.quote)
  | .not t => '!' :: enclose (s.encloses .negation t) (bare t)
  | .neg t => '-' :: enclose (s.encloses .sign t) (bare t)
  | .and l r =>
    s.between (enclose (s.encloses .conjunction l) (bare l)) ['&', '&']
      (enclose (s.encloses .negation r) (bare r))
  | .or l r =>
    s.between (enclose (s.encloses .disjunction l) (bare l)) ['|', '|']
      (enclose (s.encloses .conjunction r) (bare r))
  | .compare op l r =>
    s.between (enclose (s.encloses .sum l) (bare l)) op.symbol
      (enclose (s.encloses .sum r) (bare r))
  | .arith op l r =>
    s.between (enclose (s.encloses op.chain.level l) (bare l)) op.symbol
      (enclose (s.encloses op.chain.operand r) (bare r))
  | .call name args => name.toList ++ '(' :: (bareArgs args ++ [')'])

/-- Arguments between commas. -/
def bareArgs : List Term → List Char
  | [] => []
  | [t] => enclose (s.encloses .disjunction t) (bare t)
  | t :: u :: rest =>
    enclose (s.encloses .disjunction t) (bare t) ++ ',' :: (s.gap ++ bareArgs (u :: rest))

end

/-- A term at a place where terms of a level can stand. -/
def spellAt (ℓ : Level) (t : Term) : List Char :=
  enclose (s.encloses ℓ t) (s.bare t)

/-- A term as a formula of its own. -/
def spell (t : Term) : List Char :=
  s.spellAt .disjunction t

end Style

example :
    Style.spell ⟨'\'', .inr rfl, [' '], List.forall_mem_singleton.2 rfl, fun _ ↦ false⟩
      (.or (.not (.compare .lt (.subject [.key "it's"]) (.literal (.bool true))))
        (.arith .sub (.literal (.number (.ofNat 7)))
          (.arith .sub (.literal (.number (.ofNat 2))) (.neg (.subject []))))) =
      "!$['it\\'s'] < true || 7 - (2 - -$)".toList := by
  decide

/-! ### Terms with a spelling -/

/-- A name that calls a function: it begins with a letter or an underscore, and is no literal. -/
structure IsFunctionName (name : String) : Prop where
  first : ∃ c rest, name.toList = c :: rest ∧ c.isDigit = false
  identifier : ∀ c ∈ name.toList, Text.isIdentifierChar c
  not_literal : name ∉ ["true", "false", "null", "nil"]

/-- The integer of an access fits a signed word of 64 bits. -/
def Access.InRange : Access → Prop
  | key _ => True
  | index i => Number.IsInt64 i

/-- Null, a boolean, a string or an integer of the signed range that is not negative. -/
def IsLiteral : Scalar → Prop
  | .number n => ∃ k : Nat, k < 0x8000000000000000 ∧ n = .ofInt k
  | _ => True

/-- The terms that can be written. -/
inductive Term.Spellable : Term → Prop
  | literal {v : Scalar} (hv : IsLiteral v) : Spellable (.literal v)
  | subject {path : List Access} (hpath : ∀ a ∈ path, a.InRange) : Spellable (.subject path)
  | not {t : Term} (ht : Spellable t) : Spellable (.not t)
  | neg {t : Term} (ht : Spellable t) : Spellable (.neg t)
  | and {l r : Term} (hl : Spellable l) (hr : Spellable r) : Spellable (.and l r)
  | or {l r : Term} (hl : Spellable l) (hr : Spellable r) : Spellable (.or l r)
  | compare (op : Comparison) {l r : Term} (hl : Spellable l) (hr : Spellable r) :
    Spellable (.compare op l r)
  | arith (op : Arithmetic) {l r : Term} (hl : Spellable l) (hr : Spellable r) :
    Spellable (.arith op l r)
  | call {name : String} {args : List Term} (hname : IsFunctionName name)
    (hargs : ∀ t ∈ args, Spellable t) : Spellable (.call name args)

end DocPath.Formula
