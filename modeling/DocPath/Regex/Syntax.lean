/-!
# The syntax of regular expressions

What a pattern says, before flags are applied and names of character classes are looked up.

Nesting is limited: `Expr.depth` counts every group, repetition, list of parts, list of branches and
bracketed class on the way down, and a reader refuses what goes deeper than `maxDepth`.
-/

namespace DocPath.Regex

/-- A character of a pattern. One written as two hexadecimal digits stands for a byte where
patterns match bytes. -/
structure Literal where
  char : Char
  isByte : Bool

/-- A condition on a place in the text. -/
inductive Anchor
  | lineStart
  | lineEnd
  | textStart
  | textEnd
  | wordBoundary
  | notWordBoundary
  | wordStart
  | wordEnd
  | wordStartHalf
  | wordEndHalf
deriving DecidableEq

/-- The classes with a letter of their own. -/
inductive Shorthand
  | digit
  | space
  | word
deriving DecidableEq

/-- The classes with a name between colons. -/
inductive AsciiClass
  | alnum | alpha | ascii | blank | cntrl | digit | graph
  | lower | print | punct | space | upper | word | xdigit
deriving DecidableEq

/-- The name of a class of the character database: a name alone, or a property and a value. -/
inductive ClassName
  | named (name : String)
  | valued (property value : String)

/-- The operations between the sets of a bracketed class. -/
inductive SetOperation
  | intersection
  | difference
  | symmetricDifference
deriving DecidableEq

/-- The inside of a bracketed class. -/
inductive ClassSet
  | literal (c : Literal)
  | range (first last : Literal)
  | ascii (name : AsciiClass) (negated : Bool)
  | shorthand (name : Shorthand) (negated : Bool)
  | unicode (name : ClassName) (negated : Bool)
  | bracket (negated : Bool) (inner : ClassSet)
  | union (items : List ClassSet)
  | operation (op : SetOperation) (left right : ClassSet)

/-- The flags of a pattern. -/
inductive Flag
  | caseInsensitive
  | multiLine
  | dotMatchesNewline
  | swapGreed
  | unicode
  | crlf
  | ignoreBlanks
deriving DecidableEq

/-- Flags to set and to clear. -/
abbrev FlagChanges := List (Flag × Bool)

/-- A pattern. -/
inductive Expr
  | empty
  | literal (c : Literal)
  | dot
  | anchor (a : Anchor)
  | shorthand (name : Shorthand) (negated : Bool)
  | unicode (name : ClassName) (negated : Bool)
  | bracket (negated : Bool) (inner : ClassSet)
  | flags (changes : FlagChanges)
  | group (changes : FlagChanges) (inner : Expr)
  | concat (parts : List Expr)
  | alternate (branches : List Expr)
  | repeat (min : Nat) (max : Option Nat) (greedy : Bool) (inner : Expr)

/-! ### Nesting -/

/-- The deepest nesting of a pattern. -/
def maxDepth : Nat := 250

mutual

/-- How many unions, operations and brackets lie above the deepest item. -/
def ClassSet.depth : ClassSet → Nat
  | .bracket _ inner => inner.depth + 1
  | .union [] => 0
  | .union (item :: rest) => max item.depth (ClassSet.depths rest) + 1
  | .operation _ left right => max left.depth right.depth + 1
  | _ => 0

def ClassSet.depths : List ClassSet → Nat
  | [] => 0
  | item :: rest => max item.depth (ClassSet.depths rest)

end

mutual

/-- How many composite parts lie above the deepest part, that part included. -/
def Expr.depth : Expr → Nat
  | .bracket _ inner => inner.depth + 1
  | .group _ inner => inner.depth + 1
  | .concat parts => Expr.depths parts + 1
  | .alternate branches => Expr.depths branches + 1
  | .repeat _ _ _ inner => inner.depth + 1
  | _ => 0

def Expr.depths : List Expr → Nat
  | [] => 0
  | e :: rest => max e.depth (Expr.depths rest)

end

/-- A list of parts as one expression. -/
def Expr.ofParts : List Expr → Expr
  | [] => .empty
  | [e] => e
  | parts => .concat parts

/-- A list of branches as one expression. -/
def Expr.ofBranches : List Expr → Expr
  | [e] => e
  | branches => .alternate branches

/-- A list of items as one set. -/
def ClassSet.ofItems : List ClassSet → ClassSet
  | [item] => item
  | items => .union items

end DocPath.Regex
