import DocPath.Tree.Basic

/-!
# Arenas

An arena keeps a tree in entries, one for every slot. An entry that is in use has a cell: what its
node is, the handles of its children with their keys, and a link to its parent. So a node is stored
in two places, among the children of its parent and with a link back, and every change has to keep
the two in step, and the keys of a sequence in step with the positions.

Nothing in the type rules out that children and parents go round in a circle. What follows children
or parents has no result then, which is what `none` stands for wherever a result is wrapped in an
`Option` for this reason alone.
-/

namespace DocPath

/-- The position that a key names, if it names one. -/
def Key.position? (key : Key) : Option Nat :=
  key.int?.bind fun i ↦ if i < 0 then none else some i.toNat

namespace Arena

/-- What is stored of a node. -/
structure Cell where
  kind : Kind
  /-- The value of a scalar; a container has a null here. -/
  scalar : Scalar
  children : List (Key × NodeId)
  parent : Option NodeId

/-- A slot: how often it was released, and the cell of the node that has it. -/
structure Entry where
  generation : UInt32
  cell : Option Cell

end Arena

/-- A tree in entries, with the free slots, the one released last first, and the scratch nodes. -/
structure Arena where
  entries : Array Arena.Entry
  free : List Nat
  root : NodeId
  scratch : List NodeId
  registry : Registry
  log : List Diagnostic

namespace Arena

/-! ### Cells -/

namespace Cell

/-- A null that is listed nowhere yet. -/
def blank (parent : Option NodeId) : Cell :=
  ⟨.scalar, .null, [], parent⟩

/-- The cell of the same place with another value. -/
def settle (c : Cell) (kind : Kind) (scalar : Scalar) (children : List (Key × NodeId)) : Cell :=
  { c with kind := kind, scalar := scalar, children := children }

def clear (c : Cell) : Cell :=
  { c with children := [] }

def push (c : Cell) (key : Key) (child : NodeId) : Cell :=
  { c with children := c.children ++ [(key, child)] }

/-- The children of a sequence with their positions as keys again. -/
def renumber (children : List (Key × NodeId)) : List (Key × NodeId) :=
  children.zipIdx.map fun item ↦ (.index item.2, item.1.2)

/-- The cell without the child at a position. -/
def without (c : Cell) (position : Nat) : Cell :=
  { c with
    children :=
      if c.kind = .sequence then renumber (c.children.eraseIdx position)
      else c.children.eraseIdx position }

/-- The position of the child with a key. A map is searched for the name itself first and then,
unless the name has to be exact, for an equivalent one. -/
def position? (c : Cell) (key : Key) (exact : Bool) : Option Nat :=
  match c.kind with
  | .scalar => none
  | .sequence => key.position?.bind fun i ↦ if i < c.children.length then some i else none
  | .map =>
    (c.children.findIdx? fun child ↦ child.1.text = key.text).orElse fun _ ↦
      if exact then none else c.children.findIdx? fun child ↦ child.1.normal = key.normal

end Cell

/-! ### Reading -/

/-- The cell of a handle. A handle of another generation of its slot has none. -/
def cell? (A : Arena) (id : NodeId) : Option Cell :=
  (A.entries[id.slot]?.filter fun entry ↦ entry.generation = id.generation).bind Entry.cell

def contains (A : Arena) (id : NodeId) : Bool :=
  (A.cell? id).isSome

def kind? (A : Arena) (id : NodeId) : Option Kind :=
  (A.cell? id).map Cell.kind

def parent? (A : Arena) (id : NodeId) : Option NodeId :=
  (A.cell? id).bind Cell.parent

def children (A : Arena) (id : NodeId) : List (Key × NodeId) :=
  ((A.cell? id).map Cell.children).getD []

def hasChildren (A : Arena) (id : NodeId) : Bool :=
  !(A.children id).isEmpty

/-- The value at a handle, put together from the children. -/
def value (A : Arena) (id : NodeId) : Option Json :=
  match A.cell? id with
  | none => some .null
  | some c =>
    match c.kind with
    | .scalar => some (.scalar c.scalar)
    | .sequence => do return .array (← c.children.mapM fun child ↦ A |>.value child.2)
    | .map => do
      let entries ← c.children.mapM fun child ↦ do return (child.1.text, ← A |>.value child.2)
      return .object (Entries.ofList entries)
partial_fixpoint

/-- What is below a handle, each node before those below it. -/
def descendants (A : Arena) (id : NodeId) : Option (List NodeId) := do
  let below ← (A.children id).mapM fun child ↦ do return child.2 :: (← A |>.descendants child.2)
  return below.flatten
partial_fixpoint

/-- The child with a key. -/
def child? (A : Arena) (id : NodeId) (key : Key) (exact : Bool) : Option NodeId := do
  let position ← (← A.cell? id).position? key exact
  return (← (A.children id)[position]?).2

/-- The key under which the parent lists a node. -/
def key? (A : Arena) (id : NodeId) : Option Key := do
  let child ← (A.children (← A.parent? id)).find? fun child ↦ child.2 = id
  return child.1

/-- The position at which the parent lists a node. -/
def index? (A : Arena) (id : NodeId) : Option Nat := do
  (A.children (← A.parent? id)).findIdx? fun child ↦ child.2 = id

/-- The other children of the parent of a node. -/
def siblings (A : Arena) (id : NodeId) : List NodeId :=
  match A.parent? id with
  | some parent => ((A.children parent).map Prod.snd).filter (· ≠ id)
  | none => []

/-- The nodes above a node, its parent first. -/
def ancestors (A : Arena) (id : NodeId) : Option (List NodeId) :=
  match A.parent? id with
  | none => some []
  | some parent => do return parent :: (← A |>.ancestors parent)
partial_fixpoint

/-- The topmost of the nodes above a node; a node with none above it is its own top. -/
def rootOf (A : Arena) (id : NodeId) : Option NodeId := do
  return (← A.ancestors id).getLast?.getD id

/-- The segment that names a node in its parent. -/
def path? (A : Arena) (id : NodeId) : Option String := do
  let parent ← A.parent? id
  let key ← A.key? id
  return if (← A.kind? parent) = .sequence then "[" ++ key.text ++ "]" else Key.escape key.text

/-- The names of a node and of those above it that have a parent, its own first, and the node at the
top; nothing if one of them has no name. -/
def climb {α : Type} (A : Arena) (name : NodeId → Option α) (id : NodeId) :
    Option (Option (List α × NodeId)) :=
  match A.parent? id with
  | none => some (some ([], id))
  | some parent =>
    match name id with
    | none => some none
    | some here => do
      return (← A |>.climb name parent).map fun above ↦ (here :: above.1, above.2)
partial_fixpoint

/-- The path that names a node in the document. -/
def absolutePath (A : Arena) (id : NodeId) : Option (Option String) :=
  if A.contains id then do
    match ← A.climb A.path? id with
    | some (segments, top) =>
      return if top = A.root then some (".".intercalate segments.reverse) else none
    | none => return none
  else some none

/-! ### Slots -/

/-- Changes the cell of a handle, if there is one. -/
def update (A : Arena) (id : NodeId) (f : Cell → Cell) : Arena :=
  { A with
    entries := A.entries.modify id.slot fun entry ↦
      if entry.generation = id.generation then ⟨entry.generation, entry.cell.map f⟩ else entry }

/-- A node in the slot that was released last, or in a new one. -/
def allocate (A : Arena) (parent : Option NodeId) : NodeId × Arena :=
  match A.free with
  | slot :: free =>
    (⟨slot, (A.entries[slot]?.map Entry.generation).getD 0⟩,
      { A with
        entries := A.entries.modify slot fun entry ↦ ⟨entry.generation, some (.blank parent)⟩
        free := free })
  | [] =>
    (⟨A.entries.size, 0⟩, { A with entries := A.entries.push ⟨0, some (.blank parent)⟩ })

/-- The slot without its node, in its next generation. -/
def vacate (A : Arena) (slot : Nat) : Arena :=
  { A with
    entries := A.entries.modify slot fun entry ↦ ⟨entry.generation + 1, none⟩
    free := slot :: A.free }

/-- Releases a node, after those below it. -/
def release (A : Arena) (id : NodeId) : Option Arena :=
  match A.cell? id with
  | none => some A
  | some c => do
    let A ← c.children.foldlM (fun A child ↦ A |>.release child.2) (A.update id .clear)
    return A.vacate id.slot
partial_fixpoint

mutual

/-- Gives a node that has no children a value. -/
def build (id : NodeId) : Json → Arena → Arena
  | .scalar s, A => A.update id (.settle · .scalar s [])
  | .array items, A =>
    let (children, A) := buildItems id 0 items A
    A.update id (.settle · .sequence .null children)
  | .object entries, A =>
    let (children, A) := buildEntries id entries A
    A.update id (.settle · .map .null children)

/-- Nodes of values for a parent, which does not list them yet. -/
def buildItems (parent : NodeId) (position : Nat) :
    List Json → Arena → List (Key × NodeId) × Arena
  | [], A => ([], A)
  | v :: rest, A =>
    let (child, A) := A.allocate (some parent)
    let A := build child v A
    let (others, A) := buildItems parent (position + 1) rest A
    ((.index position, child) :: others, A)

/-- Nodes of entries for a parent, which does not list them yet. -/
def buildEntries (parent : NodeId) :
    List (String × Json) → Arena → List (Key × NodeId) × Arena
  | [], A => ([], A)
  | (k, v) :: rest, A =>
    let (child, A) := A.allocate (some parent)
    let A := build child v A
    let (others, A) := buildEntries parent rest A
    ((.name k, child) :: others, A)

end

/-! ### Changes -/

/-- The arena of a document. -/
def ofJson (registry : Registry) (v : Json) : Arena :=
  let (root, A) := allocate ⟨#[], [], ⟨0, 0⟩, [], registry, []⟩ none
  { A.build root v with root := root }

/-- Gives a node another value. The node keeps its handle and its place; the nodes below it are
released, and the parts of the value get new ones. -/
def replaceWith (A : Arena) (id : NodeId) (v : Json) : Option Arena :=
  match A.cell? id with
  | none => some A
  | some c => do
    let A ← c.children.foldlM (fun A child ↦ A.release child.2) (A.update id .clear)
    return A.build id v

/-- Removes the child with a key, which may be an equivalent one, and gives its value. -/
def deleteChild (A : Arena) (id : NodeId) (key : Key) : Option (Option Json × Arena) :=
  let found := do
    let position ← (← A.cell? id).position? key false
    return (position, (← (A.children id)[position]?).2)
  match found with
  | none => some (none, A)
  | some (position, child) => do
    let A := A.update id (.without · position)
    let v ← A.value child
    return (some v, ← A.release child)

/-- Puts a value at the end of the children of a node. -/
def pushChild (A : Arena) (id : NodeId) (key : Key) (v : Json) : NodeId × Arena :=
  let (child, A) := A.allocate (some id)
  (child, (A.build child v).update id (.push · key child))

/-- Puts nulls at the end of a sequence until it has a number of children. -/
def pad (A : Arena) (id : NodeId) (length : Nat) : Option Arena :=
  if (A.children id).length < length then
    (A.pushChild id (.index (A.children id).length) .null).2 |>.pad id length
  else some A
partial_fixpoint

/-- Puts a value under a key: in place of the child with exactly that key, else at the end. A
sequence is filled up with nulls as far as needed. -/
def insertChild (A : Arena) (id : NodeId) (key : Key) (v : Json) :
    Option (Option NodeId × Arena) :=
  match A.child? id key true with
  | some child => do return (some child, ← A.replaceWith child v)
  | none =>
    match A.kind? id with
    | some .map =>
      let (child, A) := A.pushChild id (.name key.text) v
      some (some child, A)
    | some .sequence =>
      match key.position? with
      | some position => do
        let (child, A) := (← A.pad id position).pushChild id (.index position) v
        return (some child, A)
      | none => some (none, A)
    | _ => some (none, A)

/-- Removes the node that lies where the keys up from a handle say, if they end at the root. The
keys are followed down from there by exact lookups, and the last one may be an equivalent one. -/
def kill (A : Arena) (id : NodeId) : Option (Bool × Arena) := do
  match ← A.climb A.key? id with
  | some (last :: above, top) =>
    if top = A.root then
      match above.reverse.foldlM (fun node key ↦ A.child? node key true) A.root with
      | some parent => do
        let (removed, A) ← A.deleteChild parent last
        return (removed.isSome, A)
      | none => return (false, A)
    else return (false, A)
  | _ => return (false, A)

/-- Adds a node that is not part of the document. -/
def adopt (A : Arena) (v : Json) : NodeId × Arena :=
  let (id, A) := A.allocate none
  (id, A.build id v)

/-! ### Results of queries -/

/-- Adds a node for a computed result. -/
def adoptScratch (A : Arena) (v : Json) : NodeId × Arena :=
  let (id, A) := A.adopt v
  (id, { A with scratch := A.scratch ++ [id] })

/-- Releases the scratch nodes except those that hold a node to keep. -/
def releaseScratch (A : Arena) (keep : List NodeId) : Option Arena :=
  if A.scratch.isEmpty then some A
  else do
    let held ← keep.mapM A.rootOf
    A.scratch.foldlM
      (fun A id ↦
        if id ∈ held then some { A with scratch := A.scratch ++ [id] } else A.release id)
      { A with scratch := [] }

/-- Adds a failure to the log. -/
def report (A : Arena) (segment : String) (fault : Fault) : Arena :=
  { A with log := A.log ++ [⟨segment, fault⟩] }

/-- The failures so far, and the arena with an empty log. -/
def takeLog (A : Arena) : List Diagnostic × Arena :=
  (A.log, { A with log := [] })

end Arena

end DocPath
