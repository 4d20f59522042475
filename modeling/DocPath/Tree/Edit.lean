import DocPath.Tree.Match

/-!
# Changes by path

Every change takes a list of entries and treats them in order. An entry whose path is no path ends
the list with an error and has no effect itself; the entries before it keep theirs. A path that
leads nowhere changes nothing.

`set` gives new values to what a path leads to and creates nothing. `bridge` creates what is
missing: a segment that names one child exactly makes that child, as a sequence where the segment
after it is a position and as a map otherwise; all other segments only match.
-/

namespace DocPath.Tree

open DocPath.Path (Segment)

/-- Treats entries in order, up to the first one that is refused. -/
def forEach {α : Type} (step : Tree → α → Except PathError Tree) (t : Tree) :
    List α → Except PathError Unit × Tree
  | [] => (.ok (), t)
  | a :: rest =>
    match step t a with
    | .ok t => forEach step t rest
    | .error e => (.error e, t)

/-! ### Setting -/

/-- Gives a value to every node that a path leads to. -/
def setOne (t : Tree) (entry : String × Json) : Except PathError Tree := do
  let (ids, t) ← t.find entry.1
  return ids.foldl (fun t id ↦ t.replaceWith id entry.2) t

def set (t : Tree) (entries : List (String × Json)) : Except PathError Unit × Tree :=
  t.forEach setOne entries

/-! ### Bridging -/

/-- The kind of container in which a segment creates. -/
def containerFor (s : Segment) : Kind :=
  match s.selector with
  | .index _ => .sequence
  | _ => .map

/-- The key that a segment names under a node, where it names one key and no more. -/
def literalKey? (s : Segment) (n : Node) : Option Key :=
  if s.recursive || s.formula.isSome then none
  else match s.selector, n with
    | .key name, .map _ _ => some (.name name)
    | .key name, .sequence _ _ => (Text.place? name.toList).map Key.index
    | .index i, .map _ _ => some (.name (String.ofList (Number.intText i)))
    | .index i, .sequence _ items =>
      let position := if i < 0 then items.length + i else i
      if position < 0 then none else some (.index position.toNat)
    | _, _ => none

/-- The nodes to go on with under a node, created if need be. Where nothing is to follow, a missing
child is created with the value and there is nothing to go on with. -/
def reachOrCreate (t : Tree) (s : Segment) (required : Option Kind) (v : Json) (id : NodeId) :
    List NodeId × Tree :=
  match (t.node? id).bind (literalKey? s) with
  | none => t.segmentMatches s id
  | some key =>
    match t.child? id key true, required with
    | some child, _ => ([child], t)
    | none, some kind =>
      let (created, t) := t.insertChild id key (Json.empty kind)
      (created.toList, t)
    | none, none => ([], (t.insertChild id key v).2)

/-- Makes nodes the containers that are required, emptying those of another kind; where none is
required, gives them the value. -/
def prepare (required : Option Kind) (v : Json) (t : Tree) : List NodeId → Tree
  | [] => t
  | id :: rest =>
    match required with
    | some kind =>
      prepare required v
        (if t.kind? id = some kind then t else t.replaceWith id (Json.empty kind)) rest
    | none => prepare required v (t.replaceWith id v) rest

/-- One segment of a bridge, at several nodes: the nodes to go on with. -/
def bridgeSegment (t : Tree) (s : Segment) (required : Option Kind) (v : Json) :
    List NodeId → List NodeId × Tree
  | [] => ([], t)
  | id :: rest =>
    let (targets, t) := t.reachOrCreate s required v id
    let t := prepare required v t targets
    let (others, t) := bridgeSegment t s required v rest
    ((if required.isSome then targets else []) ++ others, t)

/-- The segments of a bridge, beginning at some nodes. -/
def bridgeFrom (t : Tree) (v : Json) (ids : List NodeId) : List Segment → Tree
  | [] => t
  | s :: rest =>
    let (next, t) := t.bridgeSegment s (rest.head?.map containerFor) v ids
    if next.isEmpty then t else bridgeFrom t v next rest

/-- Writes a value at a path, creating what is missing. A root without parts becomes the container
that the first segment needs. -/
def writeThrough (t : Tree) (p : Path) (v : Json) : Tree :=
  match p.segments with
  | [] => t.replaceWith t.root.id v
  | s :: rest =>
    let t := if t.root.kind = .scalar then
      t.replaceWith t.root.id (Json.empty (containerFor s)) else t
    t.bridgeFrom v [t.root.id] (s :: rest)

/-- Writes a value at a path and releases the results that this computed. -/
def bridgePath (t : Tree) (p : Path) (v : Json) : Tree :=
  (t.writeThrough p v).releaseScratch []

def bridgeOne (t : Tree) (entry : String × Json) : Except PathError Tree := do
  return t.bridgePath (← Path.parse entry.1) entry.2

def bridge (t : Tree) (entries : List (String × Json)) : Except PathError Unit × Tree :=
  t.forEach bridgeOne entries

/-! ### Copying and moving -/

/-- Removes nodes of the document, and counts those that were still there. -/
def killAll (t : Tree) : List NodeId → Nat × Tree
  | [] => (0, t)
  | id :: rest =>
    let (killed, t) := t.kill id
    let (count, t) := killAll t rest
    (count + (if killed then 1 else 0), t)

/-- Writes what one path leads to, or the first of it, at another path; when moving, removes it from
its old place after that. -/
def transferOne (all moving : Bool) (t : Tree) (entry : String × String) :
    Except PathError Tree := do
  let target ← Path.parse entry.2
  let (found, t) ← t.find entry.1
  let sources := if all then found else found.take 1
  let t := (sources.map t.value).foldl (fun t v ↦ t.bridgePath target v) t
  return if moving then (t.killAll sources).2 else t

def transfer (all moving : Bool) (t : Tree) (entries : List (String × String)) :
    Except PathError Unit × Tree :=
  t.forEach (transferOne all moving) entries

/-- Writes the first match of each path at another path. -/
def copy : Tree → List (String × String) → Except PathError Unit × Tree :=
  transfer false false

/-- Writes every match of each path at another path, in order. -/
def copyAll : Tree → List (String × String) → Except PathError Unit × Tree :=
  transfer true false

/-- Moves the first match of each path to another path. -/
def move : Tree → List (String × String) → Except PathError Unit × Tree :=
  transfer false true

/-- Moves every match of each path to another path, in order. -/
def moveAll : Tree → List (String × String) → Except PathError Unit × Tree :=
  transfer true true

/-! ### Between trees -/

/-- Writes nodes of the document into another tree at the paths that name them here. -/
def exportNodes (t other : Tree) : List NodeId → Except PathError Unit × Tree
  | [] => (.ok (), other)
  | id :: rest =>
    match t.absolutePath? id with
    | none => exportNodes t other rest
    | some path =>
      match other.bridge [(path, t.value id)] with
      | (.ok _, other) => exportNodes t other rest
      | (.error e, other) => (.error e, other)

/-- Writes what each path leads to into another tree; when moving, removes it here after that. The
result is this tree and the other one. -/
def exportAll (moving : Bool) (t other : Tree) :
    List String → Except PathError Unit × Tree × Tree
  | [] => (.ok (), t, other)
  | path :: rest =>
    match t.find path with
    | .error e => (.error e, t, other)
    | .ok (ids, t) =>
      match t.exportNodes other ids with
      | (.error e, other) => (.error e, t, other)
      | (.ok _, other) => exportAll moving (if moving then (t.killAll ids).2 else t) other rest

def copyTo : Tree → Tree → List String → Except PathError Unit × Tree × Tree :=
  exportAll false

def moveTo : Tree → Tree → List String → Except PathError Unit × Tree × Tree :=
  exportAll true

/-! ### Deleting -/

/-- Removes what each path leads to, and counts what was removed, from a count on. -/
def deleteFrom (count : Nat) (t : Tree) : List String → Except PathError Nat × Tree
  | [] => (.ok count, t)
  | path :: rest =>
    match t.find path with
    | .error e => (.error e, t)
    | .ok (ids, t) =>
      let (killed, t) := t.killAll ids
      deleteFrom (count + killed) t rest

/-- Removes what each path leads to, and counts what was removed. -/
def delete (t : Tree) (paths : List String) : Except PathError Nat × Tree :=
  deleteFrom 0 t paths

end DocPath.Tree
