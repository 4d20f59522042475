import DocPath.Arena.Match
import DocPath.Tree.Edit

/-!
# Changes by path in arenas

What is done to a document by path, done to the arena of a tree: the entries of a change are treated
in order, up to the first one whose path is no path, and each of them with the elementary changes of
the arena.
-/

namespace DocPath.Arena

open DocPath.Path (Segment)
open DocPath.Tree (containerFor)

/-- Treats entries in order, up to the first one that is refused. -/
def forEach {α : Type} (step : Arena → α → Option (Except PathError Arena)) (A : Arena) :
    List α → Option (Except PathError Unit × Arena)
  | [] => some (.ok (), A)
  | a :: rest => do
    match ← step A a with
    | .ok A => forEach step A rest
    | .error e => return (.error e, A)

/-! ### Setting -/

/-- Gives a value to every node that a path leads to. -/
def setOne (A : Arena) (entry : String × Json) : Option (Except PathError Arena) := do
  match ← A.find entry.1 with
  | .error e => return .error e
  | .ok (ids, A) => return .ok (← ids.foldlM (fun A id ↦ A.replaceWith id entry.2) A)

def set (A : Arena) (entries : List (String × Json)) : Option (Except PathError Unit × Arena) :=
  A.forEach setOne entries

/-! ### Bridging -/

/-- The key that a segment names under a node, where it names one key and no more. -/
def literalKey? (A : Arena) (s : Segment) (parent : NodeId) : Option Key :=
  if s.recursive || s.formula.isSome then none
  else match s.selector, A.kind? parent with
    | .key name, some .map => some (.name name)
    | .key name, some .sequence => (Text.place? name.toList).map Key.index
    | .index i, some .map => some (.name (String.ofList (Number.intText i)))
    | .index i, some .sequence =>
      let position := if i < 0 then (A.children parent).length + i else i
      if position < 0 then none else some (.index position.toNat)
    | _, _ => none

/-- The nodes to go on with under a node, created if need be. Where nothing is to follow, a missing
child is created with the value and there is nothing to go on with. -/
def reachOrCreate (A : Arena) (s : Segment) (required : Option Kind) (v : Json) (id : NodeId) :
    Option (List NodeId × Arena) :=
  match A.literalKey? s id with
  | none => A.collect s id
  | some key =>
    match A.child? id key true, required with
    | some child, _ => some ([child], A)
    | none, some kind => do
      let (created, A) ← A.insertChild id key (Json.empty kind)
      return (created.toList, A)
    | none, none => do return ([], (← A.insertChild id key v).2)

/-- Makes a node the container that is required, emptying one of another kind; where none is
required, gives it the value. -/
def prepareOne (required : Option Kind) (v : Json) (A : Arena) (id : NodeId) : Option Arena :=
  match required with
  | some kind => if A.kind? id = some kind then some A else A.replaceWith id (Json.empty kind)
  | none => A.replaceWith id v

/-- One segment of a bridge, at several nodes: the nodes to go on with. -/
def bridgeSegment (A : Arena) (s : Segment) (required : Option Kind) (v : Json) :
    List NodeId → Option (List NodeId × Arena)
  | [] => some ([], A)
  | id :: rest => do
    let (targets, A) ← A.reachOrCreate s required v id
    let A ← targets.foldlM (prepareOne required v) A
    let (others, A) ← bridgeSegment A s required v rest
    return ((if required.isSome then targets else []) ++ others, A)

/-- The segments of a bridge, beginning at some nodes. -/
def bridgeFrom (A : Arena) (v : Json) (ids : List NodeId) : List Segment → Option Arena
  | [] => some A
  | s :: rest => do
    let (next, A) ← A.bridgeSegment s (rest.head?.map containerFor) v ids
    if next.isEmpty then return A else bridgeFrom A v next rest

/-- A root without parts becomes the container that a segment needs. -/
def prepareRoot (A : Arena) (s : Segment) : Option Arena :=
  if A.kind? A.root = some .scalar then A.replaceWith A.root (Json.empty (containerFor s))
  else some A

/-- Writes a value at a path, creating what is missing. -/
def writeThrough (A : Arena) (p : Path) (v : Json) : Option Arena :=
  match p.segments with
  | [] => A.replaceWith A.root v
  | s :: rest => do
    let A ← A.prepareRoot s
    A.bridgeFrom v [A.root] (s :: rest)

/-- Writes a value at a path and releases the results that this computed. -/
def bridgePath (A : Arena) (p : Path) (v : Json) : Option Arena := do
  (← A.writeThrough p v).releaseScratch []

def bridgeOne (A : Arena) (entry : String × Json) : Option (Except PathError Arena) :=
  match Path.parse entry.1 with
  | .error e => some (.error e)
  | .ok p => do return .ok (← A.bridgePath p entry.2)

def bridge (A : Arena) (entries : List (String × Json)) :
    Option (Except PathError Unit × Arena) :=
  A.forEach bridgeOne entries

/-! ### Copying and moving -/

/-- Removes nodes of the document, and counts those that were still there. -/
def killAll (A : Arena) : List NodeId → Option (Nat × Arena)
  | [] => some (0, A)
  | id :: rest => do
    let (killed, A) ← A.kill id
    let (count, A) ← killAll A rest
    return (count + (if killed then 1 else 0), A)

/-- Writes what one path leads to, or the first of it, at another path; when moving, removes it from
its old place after that. -/
def transferOne (all moving : Bool) (A : Arena) (entry : String × String) :
    Option (Except PathError Arena) :=
  match Path.parse entry.2 with
  | .error e => some (.error e)
  | .ok target => do
    match ← A.find entry.1 with
    | .error e => return .error e
    | .ok (found, A) => do
      let sources := if all then found else found.take 1
      let values ← sources.mapM A.value
      let A ← values.foldlM (fun A v ↦ A.bridgePath target v) A
      if moving then return .ok (← A.killAll sources).2 else return .ok A

def transfer (all moving : Bool) (A : Arena) (entries : List (String × String)) :
    Option (Except PathError Unit × Arena) :=
  A.forEach (transferOne all moving) entries

/-! ### Between arenas -/

/-- Writes nodes of the document into another arena at the paths that name them here. -/
def exportNodes (A other : Arena) : List NodeId → Option (Except PathError Unit × Arena)
  | [] => some (.ok (), other)
  | id :: rest => do
    match ← A.absolutePath id with
    | none => exportNodes A other rest
    | some path =>
      match ← other.bridge [(path, ← A.value id)] with
      | (.ok _, other) => exportNodes A other rest
      | (.error e, other) => return (.error e, other)

/-- Writes what each path leads to into another arena; when moving, removes it here after that. The
result is this arena and the other one. -/
def exportAll (moving : Bool) (A other : Arena) :
    List String → Option (Except PathError Unit × Arena × Arena)
  | [] => some (.ok (), A, other)
  | path :: rest => do
    match ← A.find path with
    | .error e => return (.error e, A, other)
    | .ok (ids, A) =>
      match ← A.exportNodes other ids with
      | (.error e, other) => return (.error e, A, other)
      | (.ok _, other) =>
        if moving then exportAll moving (← A.killAll ids).2 other rest
        else exportAll moving A other rest

/-! ### Deleting -/

/-- Removes what each path leads to, and counts what was removed, from a count on. -/
def deleteFrom (count : Nat) (A : Arena) :
    List String → Option (Except PathError Nat × Arena)
  | [] => some (.ok count, A)
  | path :: rest => do
    match ← A.find path with
    | .error e => return (.error e, A)
    | .ok (ids, A) => do
      let (killed, A) ← A.killAll ids
      deleteFrom (count + killed) A rest

/-- Removes what each path leads to, and counts what was removed. -/
def delete (A : Arena) (paths : List String) : Option (Except PathError Nat × Arena) :=
  deleteFrom 0 A paths

end DocPath.Arena
