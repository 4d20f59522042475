import DocPath.Proofs.Arena.Cells

/-!
# Nodes in arenas

An arena that has the cells of a node, among others, reads the value of the node from them
(`value_withCells`) and lists what is below it (`descendants_withCells`). Releasing the node takes
just its cells away (`release_withCells`), and building a value at a handle puts the cells of a node
of that value there (`build_withCells`). The slots afterwards are those that the same operation on
nodes leaves behind, so both give and take handles in the same order.

Recursion in the arena goes down along the children that are stored. It ends because the cells are
those of a node, which is the structure that every induction here is on.
-/

namespace DocPath

open Node (cells cellsBelow induction_children)

theorem Slots.releaseAll_append (s : Slots) (ids others : List NodeId) :
    s.releaseAll (ids ++ others) = (s.releaseAll ids).releaseAll others :=
  List.foldl_append

theorem Slots.releaseAll_concat (s : Slots) (ids : List NodeId) (id : NodeId) :
    s.releaseAll (ids ++ [id]) = (s.releaseAll ids).release id :=
  s.releaseAll_append ids [id]

theorem Entries.ofList_of_nodup {pairs : List (String × Json)} (h : (pairs.map Prod.fst).Nodup) :
    Entries.ofList pairs = pairs := by
  have hfold : ∀ (before : Entries), ((before ++ pairs).map Prod.fst).Nodup →
      pairs.foldl (fun entries pair ↦ entries.insert pair.1 pair.2) before = before ++ pairs := by
    clear h
    induction pairs with
    | nil => simp
    | cons pair rest ih =>
      intro before h
      have hnew : pair.1 ∉ before.map Prod.fst := by
        rw [List.map_append, List.map_cons, List.nodup_middle, List.nodup_cons] at h
        exact fun hmem ↦ h.1 (List.mem_append_left _ hmem)
      rw [List.foldl_cons, Entries.insert_of_notMem hnew, ih _ (by simpa using h)]
      simp
  exact hfold [] h

namespace Node

theorem listing_sequence (i : NodeId) (items : List Node) :
    (sequence i items).listing = items.zipIdx.map fun item ↦ (.index item.2, item.1.id) := by
  simp [listing, children]

theorem listing_map (i : NodeId) (entries : List (String × Node)) :
    (map i entries).listing = entries.map fun entry ↦ (.name entry.1, entry.2.id) := by
  simp [listing, children]

theorem mapM_listing {β : Type} {n : Node} (f : Key × NodeId → Option β) {g : Key × Node → β}
    (h : ∀ child ∈ n.children, f (child.1, child.2.id) = some (g child)) :
    n.listing.mapM f = some (n.children.map g) := by
  rw [listing]
  generalize n.children = children at h
  induction children with
  | nil => rfl
  | cons child rest ih =>
    rw [List.forall_mem_cons] at h
    rw [List.map_cons, List.mapM_cons, h.1, ih h.2]
    rfl

/-- What is done with the handle of every child. -/
theorem foldlM_listing {β : Type} (f : β → NodeId → Option β) (n : Node) (b : β) :
    n.listing.foldlM (fun b child ↦ f b child.2) b = n.childNodes.foldlM (fun b c ↦ f b c.id) b := by
  rw [listing, childNodes, List.foldlM_map, List.foldlM_map]

/-- The cells of a child are among those of a node. -/
theorem exists_cells_child {n c : Node} (hc : c ∈ n.childNodes) (parent : Option NodeId) :
    ∃ rest, (n.cells parent).Perm (c.cells (some n.id) ++ rest) := by
  obtain ⟨before, after, hsplit⟩ := List.append_of_mem hc
  refine ⟨(n.id, n.cell parent) :: (before ++ after).flatMap (cells (some n.id)), ?_⟩
  rw [cells_eq, cellsBelow, hsplit, List.flatMap_append, List.flatMap_append, List.flatMap_cons]
  exact .trans (.cons _ (List.perm_append_comm_assoc ..)) List.perm_middle.symm

end Node

namespace Arena

variable {A : Arena} {s : Slots} {others : List (NodeId × Cell)} {id : NodeId} {c : Cell}

/-- The cell of a node in an arena that has its cells. -/
theorem cell?_withCells_self {n : Node} {parent : Option NodeId}
    (h : s.Holds ((n.cells parent ++ others).map Prod.fst)) :
    (A.withCells s (n.cells parent ++ others)).cell? n.id = some (n.cell parent) := by
  rw [cell?_withCells h, Node.cells_eq, List.cons_append, List.lookup_cons_self]

/-! ### Reading -/

/-- An arena that has the cells of a node has those of its children. -/
theorem exists_withCells_child {n d : Node} (hd : d ∈ n.childNodes) {parent : Option NodeId}
    (h : s.Holds ((n.cells parent ++ others).map Prod.fst)) :
    ∃ rest, s.Holds ((d.cells (some n.id) ++ rest).map Prod.fst) ∧
      A.withCells s (n.cells parent ++ others) = A.withCells s (d.cells (some n.id) ++ rest) := by
  obtain ⟨rest, hrest⟩ := Node.exists_cells_child hd parent
  have hperm := hrest.append_right others
  rw [List.append_assoc] at hperm
  exact ⟨rest ++ others, h.of_perm (hperm.map _), withCells_perm h.nodup hperm⟩

/-- The value of a node is read from its cells. -/
theorem value_withCells {n : Node} {parent : Option NodeId}
    (h : s.Holds ((n.cells parent ++ others).map Prod.fst)) (hn : n.toJson.Distinct) :
    (A.withCells s (n.cells parent ++ others)).value n.id = some n.toJson := by
  induction n using induction_children generalizing parent others with
  | step n ih =>
    have hchild : ∀ child ∈ n.children,
        (A.withCells s (n.cells parent ++ others)).value child.2.id = some child.2.toJson := by
      intro child hmem
      have hd : child.2 ∈ n.childNodes := List.mem_map_of_mem hmem
      obtain ⟨rest, hrest, hsame⟩ := exists_withCells_child (A := A) hd h
      rw [hsame]
      exact ih child.2 hd hrest (Node.distinct_of_mem_childNodes hd hn)
    rw [value, cell?_withCells_self h]
    cases n with
    | scalar i v => simp [Node.cell, Node.kind, Node.leaf]
    | sequence i items =>
      have hitems := Node.mapM_listing (fun child ↦ value _ child.2) hchild
      have hvalues : (Node.sequence i items).children.map (fun child ↦ child.2.toJson) =
          items.map Node.toJson := by
        have hnodes := congrArg (List.map Node.toJson) (Node.childNodes_sequence i items)
        rwa [Node.childNodes, List.map_map] at hnodes
      simp only [Node.cell, Node.kind, hitems, hvalues]
      simp
    | map i entries =>
      rw [Node.toJson_map, Json.distinct_object] at hn
      have hentries := Node.mapM_listing (n := .map i entries)
        (fun child ↦ do
          return (child.1.text,
            ← (A.withCells s (cells parent (.map i entries) ++ others)).value child.2))
        (g := fun child ↦ (child.1.text, child.2.toJson)) fun child hmem ↦ by
          rw [hchild child hmem]
          rfl
      have hpairs : (Node.map i entries).children.map
          (fun child ↦ (child.1.text, child.2.toJson)) =
            entries.map fun entry ↦ (entry.1, entry.2.toJson) := by
        simp [Node.children, Key.text]
      simp only [Node.cell, Node.kind, hentries, hpairs]
      simp [Entries.ofList_of_nodup hn.1]

/-- What is below a node is listed from its cells. -/
theorem descendants_withCells {n : Node} {parent : Option NodeId}
    (h : s.Holds ((n.cells parent ++ others).map Prod.fst)) :
    (A.withCells s (n.cells parent ++ others)).descendants n.id =
      some (n.descendants.map Node.id) := by
  induction n using induction_children generalizing parent others with
  | step n ih =>
    have hlist := Node.mapM_listing (n := n)
      (fun child ↦ do
        return child.2 :: (← (A.withCells s (n.cells parent ++ others)).descendants child.2))
      (g := fun child ↦ (child.2 :: child.2.descendants).map Node.id) fun child hmem ↦ by
        have hd : child.2 ∈ n.childNodes := List.mem_map_of_mem hmem
        obtain ⟨rest, hrest, hsame⟩ := exists_withCells_child (A := A) hd h
        dsimp only
        rw [hsame, ih child.2 hd hrest]
        rfl
    rw [descendants, children, cell?_withCells_self h, Option.map_some, Option.getD_some]
    simp only [Node.cell, hlist]
    rw [Node.descendants_eq, List.map_flatMap, Node.childNodes, List.flatMap_map]
    rfl

/-! ### Releasing -/

/-- That releasing a node takes just its cells away. -/
def Releases (A : Arena) (n : Node) : Prop :=
  ∀ {parent s others}, s.Holds ((n.cells parent ++ others).map Prod.fst) →
    (A.withCells s (n.cells parent ++ others)).release n.id =
      some (A.withCells (s.releaseAll n.releaseOrder) others)

/-- Without a node, the slots hold the other cells. -/
theorem holds_releaseAll_cells {n : Node} {parent : Option NodeId}
    (h : s.Holds ((n.cells parent ++ others).map Prod.fst)) :
    (s.releaseAll n.releaseOrder).Holds (others.map Prod.fst) := by
  refine Slots.holds_releaseAll _ (h.of_perm ?_)
  rw [List.map_append, Node.map_fst_cells]
  exact n.releaseOrder_perm.symm.append_right _

/-- Nodes are released one after the other. -/
theorem foldlM_release {ns : List Node} (hrelease : ∀ n ∈ ns, A.Releases n)
    {parent : Option NodeId} (h : s.Holds ((ns.flatMap (cells parent) ++ others).map Prod.fst)) :
    ns.foldlM (fun A n ↦ A.release n.id) (A.withCells s (ns.flatMap (cells parent) ++ others)) =
      some (A.withCells (s.releaseAll (ns.flatMap Node.releaseOrder)) others) := by
  induction ns generalizing s with
  | nil => rfl
  | cons n rest ih =>
    rw [List.forall_mem_cons] at hrelease
    rw [List.flatMap_cons, List.append_assoc] at h ⊢
    rw [List.foldlM_cons, hrelease.1 h, List.flatMap_cons, Slots.releaseAll_append]
    exact ih hrelease.2 (holds_releaseAll_cells h)

/-- A node whose children are released stays behind without children. -/
theorem foldlM_release_listing {n : Node} (hrelease : ∀ c ∈ n.childNodes, A.Releases c)
    {parent : Option NodeId} (h : s.Holds ((n.cells parent ++ others).map Prod.fst)) :
    n.listing.foldlM (fun A child ↦ A.release child.2)
        ((A.withCells s (n.cells parent ++ others)).update n.id .clear) =
      some (A.withCells (s.releaseAll n.releaseOrderBelow)
        ((n.id, (n.cell parent).clear) :: others)) := by
  rw [Node.cells_eq, List.cons_append] at h ⊢
  have hcleared :
      s.Holds (((n.id, (n.cell parent).clear) :: (n.cellsBelow ++ others)).map Prod.fst) := h
  have hperm : ((n.id, (n.cell parent).clear) :: (n.cellsBelow ++ others)).Perm
      (n.cellsBelow ++ (n.id, (n.cell parent).clear) :: others) := List.perm_middle.symm
  rw [update_withCells h, withCells_perm hcleared.nodup hperm, Node.foldlM_listing Arena.release,
    Node.releaseOrderBelow_eq]
  exact foldlM_release hrelease (hcleared.of_perm (hperm.map Prod.fst))

theorem releases (A : Arena) (n : Node) : A.Releases n := by
  induction n using induction_children with
  | step n ih =>
    intro parent s others h
    have hids := h
    rw [List.map_append, Node.map_fst_cells] at hids
    have hself := Node.holds_releaseAll_below hids
    rw [release, cell?_withCells_self h]
    dsimp only [Node.cell]
    rw [foldlM_release_listing ih h, Node.releaseOrder_eq, Slots.releaseAll_concat,
      ← vacate_withCells hself]
    rfl

/-- Releasing a node takes just its cells away. -/
theorem release_withCells {n : Node} {parent : Option NodeId}
    (h : s.Holds ((n.cells parent ++ others).map Prod.fst)) :
    (A.withCells s (n.cells parent ++ others)).release n.id =
      some (A.withCells (s.releaseAll n.releaseOrder) others) :=
  A.releases n h

/-! ### Building -/

/-- The slots hold the cells of a node that is built under a handle they hold. -/
theorem holds_cells_build (h : s.Holds (id :: others.map Prod.fst)) (parent : Option NodeId)
    (v : Json) :
    (Node.build id v s).2.Holds (((Node.build id v s).1.cells parent ++ others).map Prod.fst) := by
  rw [List.map_append, Node.map_fst_cells, Node.ids_eq, Node.id_build]
  exact (Node.holds_build id v s h).of_perm List.perm_middle

/-- A container lists the nodes that were built for it. -/
private theorem settle_withCells {n : Node} {kind : Kind} {nodes : List Node}
    (h : s.Holds ((nodes.flatMap (cells (some id)) ++ (id, c) :: others).map Prod.fst))
    (hid : n.id = id) (hnodes : n.childNodes = nodes)
    (hcell : n.cell c.parent = c.settle kind .null n.listing) :
    (A.withCells s (nodes.flatMap (cells (some id)) ++ (id, c) :: others)).update id
        (.settle · kind .null n.listing) = A.withCells s (n.cells c.parent ++ others) := by
  subst hid hnodes
  have hperm := @List.perm_middle _ (n.id, c) n.cellsBelow others
  rw [← Node.cellsBelow] at h ⊢
  rw [withCells_perm h.nodup hperm, update_withCells (h.of_perm (hperm.map _)), Node.cells_eq,
    hcell]
  rfl

/-- One more node, behind the nodes that are built after it. -/
private theorem withCells_cons {n : Node} {nodes : List Node} {parent : Option NodeId}
    (h : s.Holds ((nodes.flatMap (cells parent) ++ (n.cells parent ++ others)).map Prod.fst)) :
    A.withCells s (nodes.flatMap (cells parent) ++ (n.cells parent ++ others)) =
      A.withCells s ((n :: nodes).flatMap (cells parent) ++ others) := by
  refine withCells_perm h.nodup ?_
  rw [List.flatMap_cons, List.append_assoc]
  exact List.perm_append_comm_assoc ..

mutual

/-- Building a value at a handle puts the cells of its node there. -/
theorem build_withCells (id : NodeId) (c : Cell) : (v : Json) → (s : Slots) →
    (others : List (NodeId × Cell)) → s.Holds (((id, c) :: others).map Prod.fst) →
      build id v (A.withCells s ((id, c) :: others)) =
        A.withCells (Node.build id v s).2 ((Node.build id v s).1.cells c.parent ++ others)
  | .scalar v, s, others, h => by
    rw [build, update_withCells h, Node.build, Node.cells_eq]
    simp [Node.cellsBelow, Node.id]
    rfl
  | .array items, s, others, h => by
    have hbuilt := Node.holds_buildItems items s h
    rw [← Node.map_fst_flatMap_cells (some id), ← List.map_append] at hbuilt
    rw [build, buildItems_withCells id 0 items s _ h]
    dsimp only
    rw [← Node.listing_sequence id]
    exact settle_withCells hbuilt rfl (Node.childNodes_sequence ..) rfl
  | .object entries, s, others, h => by
    have hbuilt := Node.holds_buildEntries entries s h
    rw [← List.flatMap_map Prod.snd Node.ids, ← Node.map_fst_flatMap_cells (some id),
      ← List.map_append] at hbuilt
    rw [build, buildEntries_withCells id entries s _ h]
    dsimp only
    rw [← Node.listing_map id]
    exact settle_withCells hbuilt rfl (Node.childNodes_map ..) rfl

/-- Building values makes cells for their nodes, which the parent is to list. -/
theorem buildItems_withCells (parent : NodeId) (position : Nat) :
    (items : List Json) → (s : Slots) → (others : List (NodeId × Cell)) →
    s.Holds (others.map Prod.fst) →
      buildItems parent position items (A.withCells s others) =
        (((Node.buildItems items s).1.zipIdx position).map fun item ↦
            (.index item.2, item.1.id),
          A.withCells (Node.buildItems items s).2
            ((Node.buildItems items s).1.flatMap (cells (some parent)) ++ others))
  | [], s, others, h => rfl
  | v :: rest, s, others, h => by
    have hfirst := holds_cells_build (Slots.holds_allocate h) (some parent) v
    have hall := Node.holds_buildItems rest _ hfirst
    rw [← Node.map_fst_flatMap_cells (some parent), ← List.map_append] at hall
    rw [buildItems, allocate_withCells h]
    dsimp only
    rw [build_withCells _ _ v _ _ (Slots.holds_allocate h)]
    dsimp only [Cell.blank]
    rw [buildItems_withCells parent (position + 1) rest _ _ hfirst, withCells_cons hall]
    simp [Node.buildItems]

/-- Building entries makes cells for their nodes, which the parent is to list. -/
theorem buildEntries_withCells (parent : NodeId) :
    (entries : List (String × Json)) → (s : Slots) → (others : List (NodeId × Cell)) →
    s.Holds (others.map Prod.fst) →
      buildEntries parent entries (A.withCells s others) =
        ((Node.buildEntries entries s).1.map fun entry ↦ (.name entry.1, entry.2.id),
          A.withCells (Node.buildEntries entries s).2
            (((Node.buildEntries entries s).1.map Prod.snd).flatMap (cells (some parent)) ++
              others))
  | [], s, others, h => rfl
  | (k, v) :: rest, s, others, h => by
    have hfirst := holds_cells_build (Slots.holds_allocate h) (some parent) v
    have hall := Node.holds_buildEntries rest _ hfirst
    rw [← List.flatMap_map Prod.snd Node.ids, ← Node.map_fst_flatMap_cells (some parent),
      ← List.map_append] at hall
    rw [buildEntries, allocate_withCells h]
    dsimp only
    rw [build_withCells _ _ v _ _ (Slots.holds_allocate h)]
    dsimp only [Cell.blank]
    rw [buildEntries_withCells parent rest _ _ hfirst, withCells_cons hall]
    simp [Node.buildEntries]

end

/-- A new node, built in a slot of its own. -/
theorem build_allocate_withCells (h : s.Holds (others.map Prod.fst)) (parent : Option NodeId)
    (v : Json) :
    build s.allocate.1 v (A.withCells s.allocate.2 ((s.allocate.1, .blank parent) :: others)) =
      A.withCells (Node.build s.allocate.1 v s.allocate.2).2
        ((Node.build s.allocate.1 v s.allocate.2).1.cells parent ++ others) :=
  build_withCells _ _ v _ _ (Slots.holds_allocate h)

/-- Pushing a child builds it and lists it at the end. -/
theorem pushChild_withCells (h : s.Holds (((id, c) :: others).map Prod.fst)) (key : Key) (v : Json) :
    (A.withCells s ((id, c) :: others)).pushChild id key v =
      (s.allocate.1, A.withCells (Node.build s.allocate.1 v s.allocate.2).2
        ((id, c.push key s.allocate.1) ::
          ((Node.build s.allocate.1 v s.allocate.2).1.cells (some id) ++ others))) := by
  have hbuilt := holds_cells_build (Slots.holds_allocate h) (some id) v
  have hperm := @List.perm_middle _ (id, c)
    ((Node.build s.allocate.1 v s.allocate.2).1.cells (some id)) others
  rw [pushChild, allocate_withCells h]
  dsimp only
  rw [build_allocate_withCells h, withCells_perm hbuilt.nodup hperm,
    update_withCells (hbuilt.of_perm (hperm.map _))]

/-- A container to whose children one was pushed has its cells, where another one lists them. -/
private theorem pushChild_container {n m : Node} {parent : Option NodeId}
    (h : s.Holds ((n.cells parent ++ others).map Prod.fst)) (key : Key) (v : Json)
    (hid : m.id = n.id)
    (hcell : m.cell parent = (n.cell parent).push key s.allocate.1)
    (hchildren : m.childNodes = n.childNodes ++ [(Node.build s.allocate.1 v s.allocate.2).1]) :
    (A.withCells s (n.cells parent ++ others)).pushChild n.id key v =
      (s.allocate.1, A.withCells (Node.build s.allocate.1 v s.allocate.2).2
        (m.cells parent ++ others)) := by
  rw [Node.cells_eq parent n, List.cons_append] at h ⊢
  have hbuilt := holds_cells_build (Slots.holds_allocate h) (some n.id) v
  rw [pushChild_withCells h]
  generalize (Node.build s.allocate.1 v s.allocate.2).1 = b at hchildren hbuilt ⊢
  have hbelow : m.cellsBelow = n.cellsBelow ++ b.cells (some n.id) := by
    simp [Node.cellsBelow, hchildren, hid]
  have hperm : ((n.id, (n.cell parent).push key s.allocate.1) ::
      (b.cells (some n.id) ++ (n.cellsBelow ++ others))).Perm (m.cells parent ++ others) := by
    rw [Node.cells_eq parent m, hid, hcell, hbelow, List.cons_append, List.append_assoc]
    exact (List.perm_append_comm_assoc ..).cons _
  have hfirst := (@List.perm_middle _ (n.id, n.cell parent) (b.cells (some n.id))
    (n.cellsBelow ++ others)).map Prod.fst
  exact congrArg _ (withCells_perm (hbuilt.of_perm hfirst).nodup hperm)

/-- A value pushed to a sequence is its last item. -/
theorem pushChild_sequence {items : List Node} {parent : Option NodeId}
    (h : s.Holds (((Node.sequence id items).cells parent ++ others).map Prod.fst)) (v : Json) :
    (A.withCells s ((Node.sequence id items).cells parent ++ others)).pushChild id
        (.index items.length) v =
      (s.allocate.1, A.withCells (Node.buildItems [v] s).2
        ((Node.sequence id (items ++ (Node.buildItems [v] s).1)).cells parent ++ others)) := by
  refine pushChild_container h _ v rfl ?_ ?_
  · simp [Node.cell, Node.listing_sequence, Node.buildItems, Cell.push, List.zipIdx_append]
    exact ⟨rfl, rfl⟩
  · simp [Node.buildItems]

/-- A value pushed to a map is its last entry. -/
theorem pushChild_map {entries : List (String × Node)} {parent : Option NodeId}
    (h : s.Holds (((Node.map id entries).cells parent ++ others).map Prod.fst)) (name : String)
    (v : Json) :
    (A.withCells s ((Node.map id entries).cells parent ++ others)).pushChild id (.name name) v =
      (s.allocate.1, A.withCells (Node.buildEntries [(name, v)] s).2
        ((Node.map id (entries ++ (Node.buildEntries [(name, v)] s).1)).cells parent ++
          others)) := by
  refine pushChild_container h _ v rfl ?_ ?_
  · simp [Node.cell, Node.listing_map, Node.buildEntries, Cell.push]
    exact ⟨rfl, rfl⟩
  · simp [Node.buildEntries]

/-- The slots hold the cells of a sequence with new items behind those it has. -/
theorem holds_cells_append {items : List Node} {parent : Option NodeId} (values : List Json)
    (h : s.Holds (((Node.sequence id items).cells parent ++ others).map Prod.fst)) :
    (Node.buildItems values s).2.Holds
      (((Node.sequence id (items ++ (Node.buildItems values s).1)).cells parent ++
        others).map Prod.fst) := by
  rw [List.map_append, Node.map_fst_cells] at h ⊢
  refine (Node.holds_buildItems values s h).of_perm ?_
  simp only [Node.ids_eq, Node.id, Node.childNodes_sequence, List.flatMap_append,
    List.cons_append, List.append_assoc]
  exact List.perm_middle.trans (.cons _ (List.perm_append_comm_assoc ..))

theorem length_children_sequence {items : List Node} {parent : Option NodeId}
    (h : s.Holds (((Node.sequence id items).cells parent ++ others).map Prod.fst)) :
    ((A.withCells s ((Node.sequence id items).cells parent ++ others)).children id).length =
      items.length := by
  have hcell := cell?_withCells_self (A := A) h
  rw [Node.id] at hcell
  rw [children, hcell]
  simp [Node.cell, Node.listing_sequence]

/-- Padding appends nulls. -/
theorem pad_withCells {items : List Node} {parent : Option NodeId} (missing : Nat)
    (h : s.Holds (((Node.sequence id items).cells parent ++ others).map Prod.fst)) :
    (A.withCells s ((Node.sequence id items).cells parent ++ others)).pad id
        (items.length + missing) =
      some (A.withCells (Node.buildItems (List.replicate missing .null) s).2
        ((Node.sequence id
            (items ++ (Node.buildItems (List.replicate missing .null) s).1)).cells parent ++
          others)) := by
  induction missing generalizing s items with
  | zero =>
    rw [pad, length_children_sequence h]
    simp [Node.buildItems]
  | succ missing ih =>
    have hstep := holds_cells_append [.null] h
    have hmissing : items.length + (missing + 1) =
        (items ++ (Node.buildItems [.null] s).1).length + missing := by
      simp [Node.buildItems]
      omega
    rw [pad, length_children_sequence h, if_pos (by omega), pushChild_sequence h, hmissing, ih hstep]
    simp [Node.buildItems, List.replicate_succ]

end Arena

end DocPath
