import DocPath.Regex.Meaning

/-!
# Programs

A program is a graph of instructions. A branch lists its targets in order of preference, and that
order is all that tells one match of a pattern from another: of two paths to a match the one that
prefers earlier targets wins.

Instructions are laid out from the end of the pattern to its start, so that each one knows where to
go on. A loop is a branch that the loop's body leads back to. Where the body can match the empty
text, the loop is entered through a branch of its own: otherwise the second visit to the loop's
branch at the same place, which ends there, would come before the body's other ways.
-/

namespace DocPath.Regex

/-- A step of a program. -/
inductive Instr
  | consume (set : CharSet) (next : Nat)
  | check (c : Condition) (next : Nat)
  | branch (targets : List Nat)
  | accept

/-- The instructions of a pattern, and the one to begin with. -/
structure Program where
  instrs : Array Instr
  start : Nat

mutual

/-- Whether every match of the pattern consumes a character. -/
def Node.consumes : Node → Bool
  | .empty => false
  | .chars set => !set.isEmpty
  | .condition _ => false
  | .concat parts => Node.anyConsumes parts
  | .alternate [] => false
  | .alternate (n :: rest) => n.consumes && Node.allConsume rest
  | .repeat min _ _ inner => min != 0 && inner.consumes

def Node.anyConsumes : List Node → Bool
  | [] => false
  | n :: rest => n.consumes || Node.anyConsumes rest

def Node.allConsume : List Node → Bool
  | [] => true
  | n :: rest => n.consumes && Node.allConsume rest

end

/-- Two targets, the preferred one first. -/
def choice (greedy : Bool) (again exit : Nat) : Instr :=
  .branch (if greedy then [again, exit] else [exit, again])

/-- What lays out the instructions of a pattern before those at `next`, and gives the first of
them. -/
abbrev Layout := (next : Nat) → Array Instr → Nat × Array Instr

/-- The pattern a number of times. -/
def Layout.times (body : Layout) : Nat → Layout
  | 0, next, instrs => (next, instrs)
  | n + 1, next, instrs =>
    let (next, instrs) := Layout.times body n next instrs
    body next instrs

/-- The pattern up to a number of times: each turn may be left for the end. -/
def Layout.upTo (body : Layout) (greedy : Bool) (exit : Nat) : Nat → Layout
  | 0, next, instrs => (next, instrs)
  | n + 1, next, instrs =>
    let (next, instrs) := Layout.upTo body greedy exit n next instrs
    let (again, instrs) := body next instrs
    (instrs.size, instrs.push (choice greedy again exit))

/-- The pattern once or more. The first component of the result is the branch after the body, the
second the body. -/
def Layout.loop (body : Layout) (greedy : Bool) (next : Nat) (instrs : Array Instr) :
    Nat × Nat × Array Instr :=
  let branch := instrs.size
  let (again, instrs) := body branch (instrs.push (.branch []))
  (branch, again, instrs.setIfInBounds branch (choice greedy again next))

/-- The pattern any number of times from a least number on. -/
def Layout.atLeast (body : Layout) (consumes greedy : Bool) : Nat → Layout
  | 0, next, instrs =>
    let (branch, again, instrs) := body.loop greedy next instrs
    if consumes then (branch, instrs)
    else (instrs.size, instrs.push (choice greedy again next))
  | n + 1, next, instrs =>
    let (_, again, instrs) := body.loop greedy next instrs
    body.times n again instrs

mutual

/-- Lays out a pattern. -/
def Node.layout : Node → Layout
  | .empty, next, instrs => (next, instrs)
  | .chars set, next, instrs => (instrs.size, instrs.push (.consume set next))
  | .condition c, next, instrs => (instrs.size, instrs.push (.check c next))
  | .concat parts, next, instrs => Node.layoutParts parts next instrs
  | .alternate branches, next, instrs =>
    let (targets, instrs) := Node.layoutBranches branches next instrs
    (instrs.size, instrs.push (.branch targets))
  | .repeat min none greedy inner, next, instrs =>
    Layout.atLeast inner.layout inner.consumes greedy min next instrs
  | .repeat min (some max) greedy inner, next, instrs =>
    let (next, instrs) := Layout.upTo inner.layout greedy next (max - min) next instrs
    Layout.times inner.layout min next instrs

def Node.layoutParts : List Node → Layout
  | [], next, instrs => (next, instrs)
  | n :: rest, next, instrs =>
    let (next, instrs) := Node.layoutParts rest next instrs
    n.layout next instrs

def Node.layoutBranches : List Node → (next : Nat) → Array Instr → List Nat × Array Instr
  | [], _, instrs => ([], instrs)
  | n :: rest, next, instrs =>
    let (target, instrs) := n.layout next instrs
    let (targets, instrs) := Node.layoutBranches rest next instrs
    (target :: targets, instrs)

end

/-- The program of a pattern. -/
def Node.program (n : Node) : Program :=
  let (start, instrs) := n.layout 0 #[.accept]
  ⟨instrs, start⟩

/-! ### Size -/

/-- The bytes that a set takes in a program over encoded text, by estimate. -/
def setWeight (set : CharSet) : Nat :=
  if set.isAscii then 32 + (if set.length ≤ 1 then 0 else 8 * set.length) else 32 + 70 * set.length

mutual

/-- The bytes that the program of a pattern takes, by estimate. -/
def Node.weight : Node → Nat
  | .empty => 0
  | .chars set => setWeight set
  | .condition _ => 32
  | .concat parts => Node.weights parts
  | .alternate branches => Node.weights branches + 32
  | .repeat min none _ inner => Nat.max min 1 * inner.weight + 64
  | .repeat _ (some max) _ inner => max * (inner.weight + 32)

def Node.weights : List Node → Nat
  | [] => 0
  | n :: rest => n.weight + Node.weights rest

end

/-- The bytes that a program may take. -/
def maxWeight : Nat := 10485760

end DocPath.Regex
