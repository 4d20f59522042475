import DocPath.Key
import DocPath.Json.Basic
import DocPath.Tree.Slots

/-!
# Nodes

A node is a value in which every part has a handle. The children of a sequence have their positions
as keys and those of a map their names, so keys need no upkeep when children come and go.

`Node.edges` lists every child below a node with its key, each before its own children. Searching,
matching and listing handles are all done on that list.
-/

namespace DocPath

/-- A value in which every part has a handle. -/
inductive Node
  | scalar (id : NodeId) (value : Scalar)
  | sequence (id : NodeId) (items : List Node)
  | map (id : NodeId) (entries : List (String × Node))

/-- A child together with its key and the number of children of its parent. -/
structure Edge where
  siblings : Nat
  key : Key
  child : Node

/-- A step down from a node to the child with a key. -/
structure Step where
  parent : Node
  key : Key

namespace Node

def id : Node → NodeId
  | scalar i _ => i
  | sequence i _ => i
  | map i _ => i

def kind : Node → Kind
  | scalar _ _ => .scalar
  | sequence _ _ => .sequence
  | map _ _ => .map

/-- The children with their keys, in order. -/
def children : Node → List (Key × Node)
  | scalar _ _ => []
  | sequence _ items => items.zipIdx.map fun item ↦ (.index item.2, item.1)
  | map _ entries => entries.map fun entry ↦ (.name entry.1, entry.2)

def hasChildren (n : Node) : Bool :=
  !n.children.isEmpty

/-! ### The value -/

mutual

/-- The value without the handles. -/
def toJson : Node → Json
  | scalar _ s => .scalar s
  | sequence _ items => .array (toJsonItems items)
  | map _ entries => .object (toJsonEntries entries)

def toJsonItems : List Node → List Json
  | [] => []
  | n :: rest => n.toJson :: toJsonItems rest

def toJsonEntries : List (String × Node) → List (String × Json)
  | [] => []
  | (k, n) :: rest => (k, n.toJson) :: toJsonEntries rest

end

mutual

/-- The node of a value with the given handle; its parts get new ones. -/
def build (id : NodeId) : Json → Slots → Node × Slots
  | .scalar s, slots => (scalar id s, slots)
  | .array items, slots =>
    let (nodes, slots) := buildItems items slots
    (sequence id nodes, slots)
  | .object entries, slots =>
    let (nodes, slots) := buildEntries entries slots
    (map id nodes, slots)

/-- Nodes of values. -/
def buildItems : List Json → Slots → List Node × Slots
  | [], slots => ([], slots)
  | v :: rest, slots =>
    let (id, slots) := slots.allocate
    let (n, slots) := build id v slots
    let (nodes, slots) := buildItems rest slots
    (n :: nodes, slots)

/-- Nodes of entries. -/
def buildEntries : List (String × Json) → Slots → List (String × Node) × Slots
  | [], slots => ([], slots)
  | (k, v) :: rest, slots =>
    let (id, slots) := slots.allocate
    let (n, slots) := build id v slots
    let (nodes, slots) := buildEntries rest slots
    ((k, n) :: nodes, slots)

end

@[simp] theorem id_build (i : NodeId) (v : Json) (s : Slots) : (build i v s).1.id = i := by
  cases v <;> simp [build, id]

mutual

/-- A node shows the value that it was built from. -/
@[simp] theorem toJson_build (i : NodeId) :
    (v : Json) → (s : Slots) → (build i v s).1.toJson = v
  | .scalar _, _ => by simp [build, toJson]
  | .array items, s => by simp [build, toJson, toJsonItems_buildItems items s]
  | .object entries, s => by simp [build, toJson, toJsonEntries_buildEntries entries s]

theorem toJsonItems_buildItems :
    (items : List Json) → (s : Slots) → toJsonItems (buildItems items s).1 = items
  | [], _ => by simp [buildItems, toJsonItems]
  | v :: rest, s => by
    simp [buildItems, toJsonItems, toJson_build _ v, toJsonItems_buildItems rest]

theorem toJsonEntries_buildEntries :
    (entries : List (String × Json)) → (s : Slots) →
      toJsonEntries (buildEntries entries s).1 = entries
  | [], _ => by simp [buildEntries, toJsonEntries]
  | (k, v) :: rest, s => by
    simp [buildEntries, toJsonEntries, toJson_build _ v, toJsonEntries_buildEntries rest]

end

/-! ### What lies below -/

mutual

/-- Every child at any depth, each before its own children. -/
def edges : Node → List Edge
  | scalar _ _ => []
  | sequence _ items => edgesOfItems items.length 0 items
  | map _ entries => edgesOfEntries entries.length entries

def edgesOfItems (siblings position : Nat) : List Node → List Edge
  | [] => []
  | n :: rest =>
    ⟨siblings, .index position, n⟩ :: (n.edges ++ edgesOfItems siblings (position + 1) rest)

def edgesOfEntries (siblings : Nat) : List (String × Node) → List Edge
  | [] => []
  | (k, n) :: rest => ⟨siblings, .name k, n⟩ :: (n.edges ++ edgesOfEntries siblings rest)

end

/-- The children themselves. -/
def childEdges (n : Node) : List Edge :=
  n.children.map fun child ↦ ⟨n.children.length, child.1, child.2⟩

/-- The nodes below, each before its own children. -/
def descendants (n : Node) : List Node :=
  n.edges.map Edge.child

/-- The handles of the node and of those below, parents first. -/
def ids (n : Node) : List NodeId :=
  n.id :: n.descendants.map Node.id

mutual

/-- The handles of the node and of those below in the order in which they are released, parents
last. -/
def releaseOrder : Node → List NodeId
  | scalar i _ => [i]
  | sequence i items => releaseOrderOfItems items ++ [i]
  | map i entries => releaseOrderOfEntries entries ++ [i]

def releaseOrderOfItems : List Node → List NodeId
  | [] => []
  | n :: rest => n.releaseOrder ++ releaseOrderOfItems rest

def releaseOrderOfEntries : List (String × Node) → List NodeId
  | [] => []
  | (_, n) :: rest => n.releaseOrder ++ releaseOrderOfEntries rest

end

/-- The handles of the nodes below in the order in which they are released. -/
def releaseOrderBelow (n : Node) : List NodeId :=
  n.children.flatMap fun child ↦ child.2.releaseOrder

/-- The node with a handle, at or below this one. -/
def find? (id : NodeId) (n : Node) : Option Node :=
  (n :: n.descendants).find? fun m ↦ m.id = id

/-- Whether a handle names this node or one below. -/
def has (id : NodeId) (n : Node) : Bool :=
  (n.find? id).isSome

mutual

/-- The steps from this node down to the one with a handle. -/
def trail? (target : NodeId) : Node → Option (List Step)
  | scalar i _ => if i = target then some [] else none
  | sequence i items =>
    if i = target then some [] else trailItems? target (sequence i items) 0 items
  | map i entries =>
    if i = target then some [] else trailEntries? target (map i entries) entries

def trailItems? (target : NodeId) (parent : Node) (position : Nat) :
    List Node → Option (List Step)
  | [] => none
  | n :: rest =>
    match n.trail? target with
    | some steps => some (⟨parent, .index position⟩ :: steps)
    | none => trailItems? target parent (position + 1) rest

def trailEntries? (target : NodeId) (parent : Node) :
    List (String × Node) → Option (List Step)
  | [] => none
  | (k, n) :: rest =>
    match n.trail? target with
    | some steps => some (⟨parent, .name k⟩ :: steps)
    | none => trailEntries? target parent rest

end

/-! ### Children by key -/

/-- The child with a key. A map is searched for the name itself first and then, unless the name has
to be exact, for an equivalent one. -/
def child? (n : Node) (key : Key) (exact : Bool) : Option Node :=
  match n with
  | scalar _ _ => none
  | sequence _ items => do
    let i ← key.int?
    if i < 0 then none else items[i.toNat]?
  | map _ entries =>
    let named (p : String → Bool) : Option Node :=
      (entries.find? fun entry ↦ p entry.1).map Prod.snd
    (named (· = key.text)).orElse fun _ ↦
      if exact then none else named fun name ↦ normalName name = key.normal

/-! ### Changes -/

mutual

/-- The node with the one of a given handle exchanged for another. -/
def replace (target : NodeId) (new : Node) : Node → Node
  | scalar i s => if i = target then new else scalar i s
  | sequence i items => if i = target then new else sequence i (replaceItems target new items)
  | map i entries => if i = target then new else map i (replaceEntries target new entries)

def replaceItems (target : NodeId) (new : Node) : List Node → List Node
  | [] => []
  | n :: rest => replace target new n :: replaceItems target new rest

def replaceEntries (target : NodeId) (new : Node) : List (String × Node) → List (String × Node)
  | [] => []
  | (k, n) :: rest => (k, replace target new n) :: replaceEntries target new rest

end

mutual

/-- The node without the one of a given handle below it. -/
def erase (target : NodeId) : Node → Node
  | scalar i s => scalar i s
  | sequence i items => sequence i (eraseItems target items)
  | map i entries => map i (eraseEntries target entries)

def eraseItems (target : NodeId) : List Node → List Node
  | [] => []
  | n :: rest =>
    if n.id = target then eraseItems target rest else n.erase target :: eraseItems target rest

def eraseEntries (target : NodeId) : List (String × Node) → List (String × Node)
  | [] => []
  | (k, n) :: rest =>
    if n.id = target then eraseEntries target rest
    else (k, n.erase target) :: eraseEntries target rest

end

end Node

end DocPath
