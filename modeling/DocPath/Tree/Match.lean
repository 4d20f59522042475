import DocPath.Path.Basic
import DocPath.Tree.Basic

/-!
# Matching

A segment that selects by key matches the children of a node, or all nodes below it if it is
recursive, whose key its selector takes and whose value its formula accepts. A segment that invokes
an operation does so at the node, and if it is recursive at every node below that has children; it
matches the child that the operation picks, or else a scratch node with the result.

A formula that fails for a value does not accept it. All failures are logged.
-/

namespace DocPath

namespace Path.Segment

/-- Whether the formula accepts a value, or why it fails. -/
def verdict (s : Segment) (v : Json) : Except FormulaError Bool :=
  match s.formula with
  | none => .ok true
  | some f => f.test v

/-- The children that the segment looks at. -/
def reach (s : Segment) (n : Node) : List Edge :=
  if s.recursive then n.edges else n.childEdges

/-- Those of them whose key the selector takes, with the verdicts on their values. -/
def candidates (s : Segment) (n : Node) : List (NodeId × Except FormulaError Bool) :=
  ((s.reach n).filter fun e ↦ s.selector.matchesKey e.siblings e.key).map fun e ↦
    (e.child.id, s.verdict e.child.toJson)

/-- The nodes at which an operation is invoked. -/
def targets (s : Segment) (n : Node) : List Node :=
  n :: if s.recursive then n.descendants.filter Node.hasChildren else []

end Path.Segment

namespace Tree

open DocPath.Path (Segment)

/-- Whether a verdict accepts. -/
def accepts : Except FormulaError Bool → Bool
  | .ok b => b
  | .error _ => false

/-- Logs the failures among verdicts. -/
def reportAll (t : Tree) (segment : String) :
    List (NodeId × Except FormulaError Bool) → Tree
  | [] => t
  | (_, .ok _) :: rest => reportAll t segment rest
  | (_, .error e) :: rest => reportAll (t.report segment (.formula e)) segment rest

/-- Whether the formula of a segment accepts the value at a handle. -/
def evaluates (t : Tree) (s : Segment) (id : NodeId) : Bool × Tree :=
  let verdict := s.verdict (t.value id)
  (accepts verdict, t.reportAll s.raw [(id, verdict)])

/-- The match that an operation gives at a node, if it gives one. -/
def special (t : Tree) (s : Segment) (operation : String) (args : List Json) (n : Node) :
    Option NodeId × Tree :=
  let v := n.toJson
  let filtered (t : Tree) (id : NodeId) : Option NodeId × Tree :=
    let (accepted, t) := t.evaluates s id
    (if accepted then some id else none, t)
  match t.registry.select operation v args with
  | .error e => (none, t.report s.raw (.operation e))
  | .ok picked =>
    match picked.bind fun key ↦ n.child? key true with
    | some child => filtered t child.id
    | none =>
      match t.registry.call operation v args with
      | .error e => (none, t.report s.raw (.operation e))
      | .ok result =>
        let (id, t) := t.adoptScratch result
        filtered t id

/-- The matches that an operation gives at several nodes. -/
def specials (t : Tree) (s : Segment) (operation : String) (args : List Json) :
    List Node → List NodeId × Tree
  | [] => ([], t)
  | n :: rest =>
    let (found, t) := t.special s operation args n
    let (others, t) := specials t s operation args rest
    (found.toList ++ others, t)

/-- The matches of a segment at a node, in document order. -/
def segmentMatches (t : Tree) (s : Segment) (id : NodeId) : List NodeId × Tree :=
  match s.selector with
  | .special operation args => t.specials s operation args (s.targets (t.view id))
  | _ =>
    let candidates := s.candidates (t.view id)
    ((candidates.filter fun c ↦ accepts c.2).map Prod.fst, t.reportAll s.raw candidates)

/-- The matches of a segment at several nodes. -/
def segmentMatchesAll (t : Tree) (s : Segment) : List NodeId → List NodeId × Tree
  | [] => ([], t)
  | id :: rest =>
    let (found, t) := t.segmentMatches s id
    let (others, t) := segmentMatchesAll t s rest
    (found ++ others, t)

/-- The matches of segments, one after the other, beginning at some nodes. Results that no match
holds are released after every segment. -/
def walk (t : Tree) (ids : List NodeId) : List Segment → List NodeId × Tree
  | [] => (ids, t)
  | s :: rest =>
    let (next, t) := t.segmentMatchesAll s ids
    let t := t.releaseScratch next
    if next.isEmpty then ([], t) else walk t next rest

/-- The nodes that a path leads to from a node. -/
def findFrom (t : Tree) (p : Path) (start : NodeId) : List NodeId × Tree :=
  let t := t.releaseScratch [start]
  if t.contains start then t.walk [start] p.segments else ([], t)

/-- The nodes that a path leads to from the root. -/
def findPath (t : Tree) (p : Path) : List NodeId × Tree :=
  t.findFrom p t.root.id

/-- The nodes that a path leads to, or why it is no path. -/
def find (t : Tree) (path : String) : Except PathError (List NodeId × Tree) := do
  return t.findPath (← Path.parse path)

/-- The values that a path leads to, or why it is no path. -/
def findValues (t : Tree) (path : String) : Except PathError (List Json × Tree) := do
  let (ids, t) ← t.find path
  return (ids.map t.value, t.releaseScratch [])

end Tree

end DocPath
