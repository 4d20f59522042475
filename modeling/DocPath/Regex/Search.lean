import DocPath.Regex.Program

/-!
# Running programs

All ways through a program are followed at once, one character at a time. The **threads** at a place
are the instructions reached there, in order of preference and each only once; a thread that accepts
makes those after it superfluous.
-/

namespace DocPath.Regex

/-- The characters on either side of a place. -/
structure Place where
  before : Option Char
  after : Option Char

namespace Place

/-- Whether there is a word character on a side. -/
def isWord (unicode : Bool) (side : Option Char) : Bool :=
  match side with
  | some c => (Shorthand.word.chars unicode).contains c
  | none => false

/-- Whether a condition holds at a place. -/
def satisfies (p : Place) : Condition → Bool
  | .textStart => p.before.isNone
  | .textEnd => p.after.isNone
  | .lineStart false => p.before.isNone || p.before == some '\n'
  | .lineEnd false => p.after.isNone || p.after == some '\n'
  | .lineStart true =>
    p.before.isNone || p.before == some '\n' || (p.before == some '\r' && p.after != some '\n')
  | .lineEnd true =>
    p.after.isNone || p.after == some '\r' || (p.after == some '\n' && p.before != some '\r')
  | .word edge unicode =>
    let before := isWord unicode p.before
    let after := isWord unicode p.after
    match edge with
    | .boundary => before != after
    | .notBoundary => before == after
    | .start => !before && after
    | .stop => before && !after
    | .startHalf => !before
    | .stopHalf => !after

end Place

/-- How many steps an instruction can lead to. -/
def Instr.fanOut : Instr → Nat
  | .consume _ _ => 1
  | .check _ _ => 1
  | .branch targets => targets.length
  | .accept => 0

namespace Program

/-- The instructions reached from pending ones without consuming a character, in order of
preference. Each instruction is expanded once, so the targets of all bound the steps. -/
def follow (p : Program) (place : Place) :
    (steps : Nat) → (pending : List Nat) → (seen : Array Bool) → (threads : List Nat) → List Nat
  | 0, _, _, threads => threads.reverse
  | _, [], _, threads => threads.reverse
  | steps + 1, pc :: pending, seen, threads =>
    if seen.getD pc true then follow p place steps pending seen threads
    else
      let seen := seen.setIfInBounds pc true
      match p.instrs[pc]? with
      | some (.branch targets) => follow p place steps (targets ++ pending) seen threads
      | some (.check c next) =>
        if place.satisfies c then follow p place steps (next :: pending) seen threads
        else follow p place steps pending seen threads
      | _ => follow p place steps pending seen (pc :: threads)

/-- The threads at a place from pending instructions. -/
def threads (p : Program) (place : Place) (pending : List Nat) : List Nat :=
  let bound := p.instrs.foldl (fun n i ↦ n + i.fanOut) 0
  follow p place (pending.length + bound + 1) pending (Array.replicate p.instrs.size false) []

/-- Where the threads go on after a character. -/
def advance (p : Program) (c : Char) (threads : List Nat) : List Nat :=
  threads.filterMap fun (pc : Nat) ↦
    match p.instrs[pc]? with
    | some (.consume set next) => if set.contains c then some next else none
    | _ => none

def isAccept (p : Program) (pc : Nat) : Bool :=
  match p.instrs[pc]? with
  | some .accept => true
  | _ => false

/-- Whether a match begins at this place or at a later one. -/
def matchesFrom (p : Program) (before : Option Char) (pending : List Nat) : List Char → Bool
  | [] => (p.threads ⟨before, none⟩ (pending ++ [p.start])).any p.isAccept
  | c :: rest =>
    let threads := p.threads ⟨before, some c⟩ (pending ++ [p.start])
    threads.any p.isAccept || matchesFrom p (some c) (p.advance c threads) rest

/-- Whether the pattern matches somewhere in the text. -/
def isMatch (p : Program) (text : List Char) : Bool :=
  p.matchesFrom none [] text

/-- The length of the preferred match among those that the threads lead to, where `best` is the
match found so far. -/
def longest (p : Program) (before : Option Char) (pending : List Nat) (count : Nat)
    (best : Option Nat) : List Char → Option Nat
  | [] => if (p.threads ⟨before, none⟩ pending).any p.isAccept then some count else best
  | c :: rest =>
    let threads := p.threads ⟨before, some c⟩ pending
    let best := if threads.any p.isAccept then some count else best
    match p.advance c (threads.takeWhile fun pc ↦ !p.isAccept pc) with
    | [] => best
    | pending => longest p (some c) pending (count + 1) best rest

/-- The length of the preferred match at the start of the text. -/
def matchLength? (p : Program) (text : List Char) : Option Nat :=
  p.longest none [p.start] 0 none text

end Program

end DocPath.Regex
