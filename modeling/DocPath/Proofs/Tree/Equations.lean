import DocPath.Proofs.Node.Children
import DocPath.Tree.Edit

/-!
# Operations by their parts

The operations of trees take their intermediate results apart as pairs. Here every operation that
calls others has an equation in which those calls stand whole, with projections in place of the
patterns, so that what is proved about the parts can be put together.
-/

namespace DocPath.Tree

open DocPath.Path (Segment)

variable (t : Tree) (s : Segment)

/-! ### Elementary changes -/

section

variable {t} {id : NodeId} {key : Key}

theorem replaceWith_of_node? {n : Node} (h : t.node? id = some n) (v : Json) :
    t.replaceWith id v =
      { t.mapTops (Node.replace id
          (Node.build id v (t.slots.releaseAll n.releaseOrderBelow)).1) with
        slots := (Node.build id v (t.slots.releaseAll n.releaseOrderBelow)).2 } := by
  rw [replaceWith, h]

theorem replaceWith_of_none (h : t.node? id = none) (v : Json) : t.replaceWith id v = t := by
  rw [replaceWith, h]

theorem appendItems_eq (t : Tree) (id : NodeId) (items : List Node) (values : List Json) :
    t.appendItems id items values =
      ((Node.buildItems values t.slots).1.getLast?.map Node.id,
        { t.mapTops (Node.replace id
            (.sequence id (items ++ (Node.buildItems values t.slots).1))) with
          slots := (Node.buildItems values t.slots).2 }) :=
  rfl

theorem appendEntry_eq (t : Tree) (id : NodeId) (entries : List (String × Node)) (name : String)
    (v : Json) :
    t.appendEntry id entries name v =
      (((Node.buildEntries [(name, v)] t.slots).1.map Prod.snd).getLast?.map Node.id,
        { t.mapTops (Node.replace id
            (.map id (entries ++ (Node.buildEntries [(name, v)] t.slots).1))) with
          slots := (Node.buildEntries [(name, v)] t.slots).2 }) := by
  rw [List.getLast?_map, Option.map_map]
  rfl

theorem insertChild_of_child? {child : NodeId} (h : t.child? id key true = some child) (v : Json) :
    t.insertChild id key v = (some child, t.replaceWith child v) := by
  rw [insertChild, h]

theorem insertChild_map {i : NodeId} {entries : List (String × Node)}
    (h : t.child? id key true = none) (hn : t.node? id = some (.map i entries)) (v : Json) :
    t.insertChild id key v = t.appendEntry id entries key.text v := by
  rw [insertChild, h, hn]

/-- A missing position is put at the end, after as many nulls as are needed. -/
theorem insertChild_sequence {i : NodeId} {items : List Node} {k : Nat}
    (h : t.child? id (.index k) true = none) (hn : t.node? id = some (.sequence i items))
    (hk : k < 0x8000000000000000) (v : Json) :
    t.insertChild id (.index k) v =
      t.appendItems id items (List.replicate (k - items.length) .null ++ [v]) := by
  have hpos : ¬ (k : Int) < 0 := by omega
  rw [insertChild, h, hn]
  simp only [Key.int?_index hk, if_neg hpos, Int.toNat_natCast]

/-- A sequence takes what is missing at a position, and nothing at other keys. -/
theorem insertChild_items {i : NodeId} {items : List Node} (h : t.child? id key true = none)
    (hn : t.node? id = some (.sequence i items)) (v : Json) :
    t.insertChild id key v = (none, t) ∨ ∃ k : Nat, key.int? = some (k : Int) ∧
      t.insertChild id key v =
        t.appendItems id items (List.replicate (k - items.length) .null ++ [v]) := by
  rw [insertChild, h, hn]
  cases hkey : key.int? with
  | none => exact .inl rfl
  | some k =>
    by_cases hk : k < 0
    · exact .inl (if_pos hk)
    · refine .inr ⟨k.toNat, congrArg some (Int.toNat_of_nonneg (Int.not_lt.1 hk)).symm, ?_⟩
      exact if_neg hk

end

/-! ### Matching -/

/-- What an operation gives at a node: a failure, a child of the node, or a computed value. -/
inductive Outcome
  | failed (e : OperationError)
  | child (n : Node)
  | result (v : Json)

/-- The outcome of the operation of a name. It depends on the registry and the node only. -/
def outcome (r : Registry) (operation : String) (args : List Json) (n : Node) : Outcome :=
  match r.select operation n.toJson args with
  | .error e => .failed e
  | .ok picked =>
    match picked.bind fun key ↦ n.child? key true with
    | some child => .child child
    | none =>
      match r.call operation n.toJson args with
      | .error e => .failed e
      | .ok v => .result v

/-- The node of a handle as a match, if the formula of a segment accepts it. -/
def filtered (id : NodeId) : Option NodeId × Tree :=
  (if (t.evaluates s id).1 then some id else none, (t.evaluates s id).2)

/-- An operation matches the child it picks, or else a scratch node, if the formula accepts it. -/
theorem special_eq (operation : String) (args : List Json) (n : Node) :
    t.special s operation args n =
      match outcome t.registry operation args n with
      | .failed e => (none, t.report s.raw (.operation e))
      | .child c => t.filtered s c.id
      | .result v => (t.adoptScratch v).2.filtered s (t.adoptScratch v).1 := by
  unfold special outcome
  dsimp only
  cases t.registry.select operation n.toJson args with
  | error e => rfl
  | ok picked =>
    dsimp only
    cases picked.bind fun key ↦ n.child? key true with
    | some child => rfl
    | none =>
      dsimp only
      cases t.registry.call operation n.toJson args <;> rfl

theorem specials_cons (operation : String) (args : List Json) (n : Node) (rest : List Node) :
    t.specials s operation args (n :: rest) =
      ((t.special s operation args n).1.toList ++
          ((t.special s operation args n).2.specials s operation args rest).1,
        ((t.special s operation args n).2.specials s operation args rest).2) :=
  rfl

theorem segmentMatchesAll_cons (id : NodeId) (rest : List NodeId) :
    t.segmentMatchesAll s (id :: rest) =
      ((t.segmentMatches s id).1 ++ ((t.segmentMatches s id).2.segmentMatchesAll s rest).1,
        ((t.segmentMatches s id).2.segmentMatchesAll s rest).2) :=
  rfl

theorem walk_cons (ids : List NodeId) (rest : List Segment) :
    t.walk ids (s :: rest) =
      if (t.segmentMatchesAll s ids).1.isEmpty then
        ([], (t.segmentMatchesAll s ids).2.releaseScratch (t.segmentMatchesAll s ids).1)
      else ((t.segmentMatchesAll s ids).2.releaseScratch (t.segmentMatchesAll s ids).1).walk
        (t.segmentMatchesAll s ids).1 rest :=
  rfl

/-- A search with a path succeeds exactly if the path is one. -/
theorem find_eq (path : String) :
    t.find path = (Path.parse path).map fun p ↦ t.findPath p := by
  unfold find
  cases Path.parse path <;> rfl

theorem findValues_eq (path : String) :
    t.findValues path = (Path.parse path).map fun p ↦
      ((t.findPath p).1.map (t.findPath p).2.value, (t.findPath p).2.releaseScratch []) := by
  unfold findValues
  rw [find_eq]
  cases Path.parse path <;> rfl

theorem exists_of_findValues {t : Tree} {path : String} {found : List Json × Tree}
    (h : t.findValues path = .ok found) :
    ∃ p, Path.parse path = .ok p ∧
      found = ((t.findPath p).1.map (t.findPath p).2.value, (t.findPath p).2.releaseScratch []) := by
  rw [findValues_eq] at h
  cases hp : Path.parse path with
  | error e =>
    rw [hp] at h
    cases h
  | ok p =>
    rw [hp] at h
    exact ⟨p, rfl, (Except.ok.inj h).symm⟩

/-! ### Entries -/

@[simp] theorem forEach_nil {α : Type} (step : Tree → α → Except PathError Tree) :
    t.forEach step [] = (.ok (), t) :=
  rfl

theorem forEach_cons_ok {α : Type} {step : Tree → α → Except PathError Tree} {t t' : Tree} {a : α}
    (h : step t a = .ok t') (rest : List α) :
    t.forEach step (a :: rest) = t'.forEach step rest := by
  simp [forEach, h]

theorem forEach_cons_error {α : Type} {step : Tree → α → Except PathError Tree} {t : Tree} {a : α}
    {e : PathError} (h : step t a = .error e) (rest : List α) :
    t.forEach step (a :: rest) = (.error e, t) := by
  simp [forEach, h]

/-- Gives a value to several nodes, one after the other. -/
def replaceEach (t : Tree) (ids : List NodeId) (v : Json) : Tree :=
  ids.foldl (fun t id ↦ t.replaceWith id v) t

theorem setOne_eq (entry : String × Json) :
    t.setOne entry = (Path.parse entry.1).map fun p ↦
      (t.findPath p).2.replaceEach (t.findPath p).1 entry.2 := by
  unfold setOne
  rw [find_eq]
  cases Path.parse entry.1 <;> rfl

theorem set_singleton {t : Tree} {raw : String} {p : Path} (hp : Path.parse raw = .ok p) (v : Json) :
    t.set [(raw, v)] = (.ok (), (t.findPath p).2.replaceEach (t.findPath p).1 v) := by
  have hone : t.setOne (raw, v) = .ok ((t.findPath p).2.replaceEach (t.findPath p).1 v) := by
    rw [setOne_eq, hp]
    rfl
  rw [set, forEach_cons_ok hone, forEach_nil]

theorem bridgeOne_eq (entry : String × Json) :
    t.bridgeOne entry = (Path.parse entry.1).map fun p ↦ t.bridgePath p entry.2 := by
  unfold bridgeOne
  cases Path.parse entry.1 <;> rfl

/-! ### Bridging -/

theorem reachOrCreate_of_none {t : Tree} {required : Option Kind} {v : Json} {id : NodeId}
    {s : Segment} (h : (t.node? id).bind (literalKey? s) = none) :
    t.reachOrCreate s required v id = t.segmentMatches s id := by
  simp [reachOrCreate, h]

theorem reachOrCreate_of_some {t : Tree} {required : Option Kind} {v : Json} {id : NodeId}
    {s : Segment} {key : Key} (h : (t.node? id).bind (literalKey? s) = some key) :
    t.reachOrCreate s required v id =
      match t.child? id key true, required with
      | some child, _ => ([child], t)
      | none, some kind =>
        ((t.insertChild id key (Json.empty kind)).1.toList,
          (t.insertChild id key (Json.empty kind)).2)
      | none, none => ([], (t.insertChild id key v).2) := by
  cases hchild : t.child? id key true <;> cases required <;> simp [reachOrCreate, h, hchild]

/-- Where nothing is to follow, nodes are given the value. -/
theorem prepare_none (v : Json) (t : Tree) (ids : List NodeId) :
    prepare none v t ids = t.replaceEach ids v := by
  induction ids generalizing t with
  | nil => rfl
  | cons id rest ih => exact ih _

theorem bridgeSegment_cons (required : Option Kind) (v : Json) (id : NodeId)
    (rest : List NodeId) :
    t.bridgeSegment s required v (id :: rest) =
      let reached := t.reachOrCreate s required v id
      let others := (prepare required v reached.2 reached.1).bridgeSegment s required v rest
      ((if required.isSome then reached.1 else []) ++ others.1, others.2) :=
  rfl

theorem bridgeFrom_cons (v : Json) (ids : List NodeId) (rest : List Segment) :
    t.bridgeFrom v ids (s :: rest) =
      let reached := t.bridgeSegment s (rest.head?.map containerFor) v ids
      if reached.1.isEmpty then reached.2 else reached.2.bridgeFrom v reached.1 rest :=
  rfl

theorem bridgeFrom_singleton (v : Json) (ids : List NodeId) :
    t.bridgeFrom v ids [s] = (t.bridgeSegment s none v ids).2 :=
  ite_self _

/-- From no nodes a bridge goes nowhere. -/
theorem bridgeFrom_nil (v : Json) (segments : List Segment) : t.bridgeFrom v [] segments = t := by
  cases segments <;> rfl

theorem bridgeFrom_cons_cons (next : Segment) (v : Json) (ids : List NodeId)
    (rest : List Segment) :
    t.bridgeFrom v ids (s :: next :: rest) =
      let reached := t.bridgeSegment s (some (containerFor next)) v ids
      reached.2.bridgeFrom v reached.1 (next :: rest) := by
  rw [bridgeFrom_cons]
  dsimp only [List.head?_cons, Option.map_some]
  split
  · rename_i hnil
    rw [List.isEmpty_iff.1 hnil, bridgeFrom_nil]
  · rfl

/-- A root without parts becomes the container that the first segment needs. -/
def prepareRoot : Tree :=
  if t.root.kind = .scalar then t.replaceWith t.root.id (Json.empty (containerFor s)) else t

theorem writeThrough_nil {p : Path} (hp : p.segments = []) (v : Json) :
    t.writeThrough p v = t.replaceWith t.root.id v := by
  rw [writeThrough, hp]

theorem writeThrough_cons {p : Path} {segments : List Segment} (hp : p.segments = s :: segments)
    (v : Json) :
    t.writeThrough p v =
      (t.prepareRoot s).bridgeFrom v [(t.prepareRoot s).root.id] (s :: segments) := by
  rw [writeThrough, hp]
  rfl

/-! ### Removing and moving -/

theorem killAll_cons (id : NodeId) (rest : List NodeId) :
    t.killAll (id :: rest) =
      (((t.kill id).2.killAll rest).1 + (if (t.kill id).1 then 1 else 0),
        ((t.kill id).2.killAll rest).2) :=
  rfl

/-- Writes several values at a path, one after the other. -/
def bridgeEach (t : Tree) (p : Path) (values : List Json) : Tree :=
  values.foldl (fun t v ↦ t.bridgePath p v) t

/-- What is moved or copied: everything that was found, or the first of it. -/
def sources (all : Bool) (found : List NodeId) : List NodeId :=
  if all then found else found.take 1

/-- Writes what one path leads to at another path and, when moving, removes it after that. -/
def transferPath (all moving : Bool) (t : Tree) (origin target : Path) : Tree :=
  let found := t.findPath origin
  let moved := sources all found.1
  let written := found.2.bridgeEach target (moved.map found.2.value)
  if moving then (written.killAll moved).2 else written

theorem transferOne_eq (all moving : Bool) (entry : String × String) :
    t.transferOne all moving entry = do
      let target ← Path.parse entry.2
      let origin ← Path.parse entry.1
      return transferPath all moving t origin target := by
  unfold transferOne
  cases Path.parse entry.2 with
  | error e => rfl
  | ok target =>
    rw [find_eq]
    cases Path.parse entry.1 <;> rfl

theorem deleteFrom_cons (count : Nat) (path : String) (rest : List String) :
    t.deleteFrom count (path :: rest) =
      match Path.parse path with
      | .error e => (.error e, t)
      | .ok p =>
        ((t.findPath p).2.killAll (t.findPath p).1).2.deleteFrom
          (count + ((t.findPath p).2.killAll (t.findPath p).1).1) rest := by
  rw [deleteFrom, find_eq]
  cases Path.parse path <;> rfl

end DocPath.Tree
