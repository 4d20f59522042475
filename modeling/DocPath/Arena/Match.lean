import DocPath.Arena.Basic
import DocPath.Path.Basic

/-!
# Matching in arenas

A segment is matched in one walk down from a node. An operation is invoked at the node itself, and
every child is tested when the walk comes to it; a recursive segment goes on below a child that has
children, before the next child.
-/

namespace DocPath.Arena

open DocPath.Path (Segment)

/-- Whether the selector of a segment takes the key of a child of a node. -/
def keyMatches (A : Arena) (s : Segment) (parent : NodeId) (key : Key) : Bool :=
  s.selector.matchesKey (A.children parent).length key

/-- Whether the formula of a segment accepts the value at a handle. A failure is logged and does not
accept. -/
def evaluates (A : Arena) (s : Segment) (id : NodeId) : Option (Bool × Arena) :=
  match s.formula with
  | none => some (true, A)
  | some formula => do
    match formula.test (← A.value id) with
    | .ok accepted => return (accepted, A)
    | .error e => return (false, A.report s.raw (.formula e))

/-- A node as a match, if the formula of a segment accepts it. -/
def filtered (A : Arena) (s : Segment) (id : NodeId) : Option (Option NodeId × Arena) := do
  let (accepted, A) ← A.evaluates s id
  return (if accepted then some id else none, A)

/-- The match that an operation gives at a node, if it gives one: the child that it picks, or else a
scratch node with the result. -/
def special (A : Arena) (s : Segment) (operation : String) (args : List Json) (id : NodeId) :
    Option (Option NodeId × Arena) := do
  let subject ← A.value id
  match A.registry.select operation subject args with
  | .error e => return (none, A.report s.raw (.operation e))
  | .ok picked =>
    match picked.bind fun key ↦ A.child? id key true with
    | some child => A.filtered s child
    | none =>
      match A.registry.call operation subject args with
      | .error e => return (none, A.report s.raw (.operation e))
      | .ok result =>
        let (found, A) := A.adoptScratch result
        A.filtered s found

/-- The match of a segment at a node itself, which only an operation gives. -/
def matchHere (A : Arena) (s : Segment) (id : NodeId) : Option (List NodeId × Arena) :=
  match s.selector with
  | .special operation args => do
    let (found, A) ← A.special s operation args id
    return (found.toList, A)
  | _ => some ([], A)

/-- Tests one child of a node. -/
def visit (A : Arena) (s : Segment) (parent : NodeId) (child : Key × NodeId) :
    Option (List NodeId × Arena) :=
  if A.keyMatches s parent child.1 then do
    let (accepted, A) ← A.evaluates s child.2
    return (if accepted then [child.2] else [], A)
  else some ([], A)

/-- The matches of a segment at a node, in document order. -/
def collect (A : Arena) (s : Segment) (id : NodeId) : Option (List NodeId × Arena) := do
  let start ← A.matchHere s id
  (start.2.children id).foldlM
    (fun found child ↦ do
      let (here, A) ← found.2.visit s id child
      if s.recursive && A.hasChildren child.2 then
        let (below, A) ← A |>.collect s child.2
        return (found.1 ++ (here ++ below), A)
      else return (found.1 ++ here, A))
    start
partial_fixpoint

/-- The matches of a segment at several nodes. -/
def collectAll (A : Arena) (s : Segment) : List NodeId → Option (List NodeId × Arena)
  | [] => some ([], A)
  | id :: rest => do
    let (found, A) ← A.collect s id
    let (others, A) ← collectAll A s rest
    return (found ++ others, A)

/-- The matches of segments, one after the other, beginning at some nodes. Results that no match
holds are released after every segment. -/
def walk (A : Arena) (ids : List NodeId) : List Segment → Option (List NodeId × Arena)
  | [] => some (ids, A)
  | s :: rest => do
    let (next, A) ← A.collectAll s ids
    let A ← A.releaseScratch next
    if next.isEmpty then return ([], A) else walk A next rest

/-- The nodes that a path leads to from a node. -/
def findFrom (A : Arena) (p : Path) (start : NodeId) : Option (List NodeId × Arena) := do
  let A ← A.releaseScratch [start]
  if A.contains start then A.walk [start] p.segments else return ([], A)

/-- The nodes that a path leads to from the root. -/
def findPath (A : Arena) (p : Path) : Option (List NodeId × Arena) :=
  A.findFrom p A.root

/-- The nodes that a path leads to, or why it is no path. -/
def find (A : Arena) (path : String) : Option (Except PathError (List NodeId × Arena)) :=
  match Path.parse path with
  | .error e => some (.error e)
  | .ok p => do return .ok (← A.findPath p)

/-- The values that a path leads to, or why it is no path. -/
def findValues (A : Arena) (path : String) : Option (Except PathError (List Json × Arena)) := do
  match ← A.find path with
  | .error e => return .error e
  | .ok (ids, A) => do
    let values ← ids.mapM A.value
    return .ok (values, ← A.releaseScratch [])

end DocPath.Arena
