import DocPath.Formula.Error
import DocPath.Operation.Basic
import DocPath.Tree.Node

/-!
# Trees

A tree holds a document as a node, and beside it nodes that belong to no document: those that were
**adopted**, and the **scratch** nodes that hold computed results of queries until the next query.

A handle is live while some node of the tree has it. Looked at through a handle that is not live, a
tree shows a null without children, and no change through such a handle has an effect.

Failures of filters and operations stop no query. They are kept in the tree's log, oldest first.
-/

namespace DocPath

/-- A failure that only means that something does not match. -/
inductive Fault
  | formula (e : FormulaError)
  | operation (e : OperationError)

def Fault.message : Fault → String
  | formula e => e.message
  | operation e => e.message

/-- A failure together with the text of the segment in which it came up. -/
structure Diagnostic where
  segment : String
  fault : Fault

/-- A document with handles for its parts. -/
structure Tree where
  root : Node
  adopted : List Node
  scratch : List Node
  slots : Slots
  registry : Registry
  log : List Diagnostic

namespace Tree

/-- The tree of a document. -/
def ofJson (registry : Registry) (v : Json) : Tree :=
  let (id, slots) := Slots.none.allocate
  let (root, slots) := Node.build id v slots
  ⟨root, [], [], slots, registry, []⟩

/-- The document. -/
def document (t : Tree) : Json :=
  t.root.toJson

@[simp] theorem document_ofJson (r : Registry) (v : Json) : (ofJson r v).document = v := by
  simp [ofJson, document]

/-- The nodes that are children of no node. -/
def tops (t : Tree) : List Node :=
  t.root :: (t.adopted ++ t.scratch)

/-- The handles of all nodes. -/
def ids (t : Tree) : List NodeId :=
  t.tops.flatMap Node.ids

/-! ### Looking at nodes -/

/-- The node with a handle. -/
def node? (t : Tree) (id : NodeId) : Option Node :=
  t.tops.findSome? (Node.find? id)

/-- Whether the handle is live. -/
def contains (t : Tree) (id : NodeId) : Bool :=
  (t.node? id).isSome

/-- The node with a handle, or a null where there is none. -/
def view (t : Tree) (id : NodeId) : Node :=
  (t.node? id).getD (.scalar id .null)

/-- The value at a handle. -/
def value (t : Tree) (id : NodeId) : Json :=
  (t.view id).toJson

def kind? (t : Tree) (id : NodeId) : Option Kind :=
  (t.node? id).map Node.kind

/-- The children at a handle. -/
def children (t : Tree) (id : NodeId) : List (Key × Node) :=
  (t.view id).children

/-- The handles of the nodes below, each before those below it. -/
def descendants (t : Tree) (id : NodeId) : List NodeId :=
  (t.view id).descendants.map Node.id

/-- The child with a key. -/
def child? (t : Tree) (id : NodeId) (key : Key) (exact : Bool) : Option NodeId :=
  ((t.view id).child? key exact).map Node.id

/-! ### Where nodes are -/

/-- The steps down to the node with a handle, from the top of what it belongs to. -/
def trail (t : Tree) (id : NodeId) : List Step :=
  (t.tops.findSome? (Node.trail? id)).getD []

/-- The last step down to a node. -/
def lastStep? (t : Tree) (id : NodeId) : Option Step :=
  (t.trail id).getLast?

def parent? (t : Tree) (id : NodeId) : Option NodeId :=
  (t.lastStep? id).map fun step ↦ step.parent.id

/-- The key of a node in its parent. -/
def key? (t : Tree) (id : NodeId) : Option Key :=
  (t.lastStep? id).map Step.key

/-- The position of a node among the children of its parent. -/
def index? (t : Tree) (id : NodeId) : Option Nat :=
  (t.lastStep? id).bind fun step ↦ step.parent.children.findIdx? fun child ↦ child.2.id = id

/-- The other children of the parent of a node. -/
def siblings (t : Tree) (id : NodeId) : List NodeId :=
  match t.lastStep? id with
  | some step => (step.parent.children.map fun child ↦ child.2.id).filter (· ≠ id)
  | none => []

/-- The nodes above a node, its parent first. -/
def ancestors (t : Tree) (id : NodeId) : List NodeId :=
  ((t.trail id).map fun step ↦ step.parent.id).reverse

/-- The top of what a node belongs to. -/
def rootOf (t : Tree) (id : NodeId) : NodeId :=
  match t.trail id with
  | step :: _ => step.parent.id
  | [] => id

/-- The segment that names a node in its parent. -/
def path? (t : Tree) (id : NodeId) : Option String :=
  (t.key? id).map Key.segment

/-- The path that names a node in the document. -/
def absolutePath? (t : Tree) (id : NodeId) : Option String :=
  (t.root.trail? id).map fun steps ↦ ".".intercalate (steps.map fun step ↦ step.key.segment)

/-! ### Changes -/

/-- The tree with every top changed. -/
def mapTops (t : Tree) (f : Node → Node) : Tree :=
  { t with root := f t.root, adopted := t.adopted.map f, scratch := t.scratch.map f }

/-- Gives a node another value. The node keeps its handle and its place; the nodes below it are
released, and the parts of the value get new ones. -/
def replaceWith (t : Tree) (id : NodeId) (v : Json) : Tree :=
  match t.node? id with
  | none => t
  | some n =>
    let (new, slots) := Node.build id v (t.slots.releaseAll n.releaseOrderBelow)
    { t.mapTops (Node.replace id new) with slots := slots }

/-- The tree without a node below the root or below another top. -/
def remove (t : Tree) (n : Node) : Tree :=
  { t.mapTops (Node.erase n.id) with slots := t.slots.releaseAll n.releaseOrder }

/-- Removes the child with a key, which may be an equivalent one, and gives its value. -/
def deleteChild (t : Tree) (id : NodeId) (key : Key) : Option Json × Tree :=
  match (t.view id).child? key false with
  | some n => (some n.toJson, t.remove n)
  | none => (none, t)

/-- Removes a node of the document other than its root. -/
def kill (t : Tree) (id : NodeId) : Bool × Tree :=
  match t.root.find? id with
  | some n => if id = t.root.id then (false, t) else (true, t.remove n)
  | none => (false, t)

/-- Puts values at the end of a sequence, and gives the handle of the last one. -/
def appendItems (t : Tree) (id : NodeId) (items : List Node) (values : List Json) :
    Option NodeId × Tree :=
  let (nodes, slots) := Node.buildItems values t.slots
  (nodes.getLast?.map Node.id,
    { t.mapTops (Node.replace id (.sequence id (items ++ nodes))) with slots := slots })

/-- Puts an entry at the end of a map, and gives the handle of its value. -/
def appendEntry (t : Tree) (id : NodeId) (entries : List (String × Node)) (name : String)
    (v : Json) : Option NodeId × Tree :=
  let (nodes, slots) := Node.buildEntries [(name, v)] t.slots
  (nodes.getLast?.map fun entry ↦ entry.2.id,
    { t.mapTops (Node.replace id (.map id (entries ++ nodes))) with slots := slots })

/-- Puts a value under a key: in place of the child with exactly that key, else at the end. A
sequence is filled up with nulls as far as needed. -/
def insertChild (t : Tree) (id : NodeId) (key : Key) (v : Json) : Option NodeId × Tree :=
  match t.child? id key true with
  | some child => (some child, t.replaceWith child v)
  | none =>
    match t.node? id with
    | some (.map _ entries) => t.appendEntry id entries key.text v
    | some (.sequence _ items) =>
      match key.int? with
      | some i =>
        if i < 0 then (none, t)
        else t.appendItems id items (List.replicate (i.toNat - items.length) .null ++ [v])
      | none => (none, t)
    | _ => (none, t)

/-- Adds a node that is not part of the document. -/
def adopt (t : Tree) (v : Json) : NodeId × Tree :=
  let (id, slots) := t.slots.allocate
  let (n, slots) := Node.build id v slots
  (id, { t with adopted := t.adopted ++ [n], slots := slots })

/-! ### Results of queries -/

/-- Adds a node for a computed result. -/
def adoptScratch (t : Tree) (v : Json) : NodeId × Tree :=
  let (id, slots) := t.slots.allocate
  let (n, slots) := Node.build id v slots
  (id, { t with scratch := t.scratch ++ [n], slots := slots })

/-- Releases the scratch nodes except those that hold a node to keep. -/
def releaseScratch (t : Tree) (keep : List NodeId) : Tree :=
  let (held, dropped) := t.scratch.partition fun n ↦ keep.any n.has
  { t with scratch := held, slots := t.slots.releaseAll (dropped.flatMap Node.releaseOrder) }

/-- Adds a failure to the log. -/
def report (t : Tree) (segment : String) (fault : Fault) : Tree :=
  { t with log := t.log ++ [⟨segment, fault⟩] }

/-- The failures so far, and the tree with an empty log. -/
def takeLog (t : Tree) : List Diagnostic × Tree :=
  (t.log, { t with log := [] })

end Tree

end DocPath
