import DocPath.Proofs.Arena.Store
import DocPath.Proofs.Tree.Navigation

/-!
# The arena of a tree

A tree is kept in an arena by the cells of its nodes (`Tree.arena`). In a sound tree the cell of a
live handle shows the node and the parent that the tree has at the handle (`Sound.cell?_arena`), and
so everything that can be read from the arena is what the tree says: downward, along the children
that are stored, and upward, along the links to parents.

Going up ends since chains of parents end in a sound tree (`Sound.wellFounded_parent`), and the
statements here say so too: what could go on forever has a result.

* `Sound.cell?_arena` — what is stored
* `Sound.value_arena`, `Sound.descendants_arena`, `Sound.child?_arena` — going down
* `Sound.key?_arena`, `Sound.ancestors_arena`, `Sound.absolutePath_arena` — going up
-/

namespace DocPath

open Arena (Cell)

/-! ### Children by key -/

theorem findIdx?_bind_getElem? {α : Type} (p : α → Bool) (l : List α) :
    ((l.findIdx? p).bind fun i ↦ l[i]?) = l.find? p := by
  induction l with
  | nil => rfl
  | cons a rest ih =>
    rw [List.findIdx?_cons, List.find?_cons]
    cases p a with
    | true => rfl
    | false =>
      rw [← ih]
      cases rest.findIdx? p <;> simp

namespace Node

theorem getElem?_childNodes (n : Node) (position : Nat) :
    n.childNodes[position]?.map id = n.listing[position]?.map Prod.snd := by
  rw [← List.getElem?_map, ← List.getElem?_map, map_snd_listing]

/-- The child with a key stands at the position that the cell finds for the key. -/
theorem child?_eq (n : Node) (parent : Option NodeId) (key : Key) (exact : Bool) :
    n.child? key exact = ((n.cell parent).position? key exact).bind fun i ↦ n.childNodes[i]? := by
  cases n with
  | scalar i s => rfl
  | sequence i items =>
    rw [child?_sequence, childNodes_sequence, cell, Arena.Cell.position?, listing_sequence]
    simp only [kind, List.length_map, List.length_zipIdx, Key.position?]
    cases key.int? with
    | none => rfl
    | some k =>
      by_cases hk : k < 0
      · simp [hk]
      · by_cases hlt : k.toNat < items.length
        · simp [hk, hlt]
        · simp [hk, hlt]
  | map i entries =>
    have hnamed (p : String → Bool) : (entries.find? fun entry ↦ p entry.1).map Prod.snd =
        (entries.findIdx? fun entry ↦ p entry.1).bind fun i ↦ (entries.map Prod.snd)[i]? := by
      rw [← findIdx?_bind_getElem?]
      cases entries.findIdx? fun entry ↦ p entry.1 <;> simp
    have htext : (map i entries).listing.findIdx? (fun child ↦ child.1.text = key.text) =
        entries.findIdx? fun entry ↦ entry.1 = key.text := by
      rw [listing_map, List.findIdx?_map]
      rfl
    have hnormal : (map i entries).listing.findIdx? (fun child ↦ child.1.normal = key.normal) =
        entries.findIdx? fun entry ↦ normalName entry.1 = key.normal := by
      rw [listing_map, List.findIdx?_map]
      rfl
    rw [childNodes_map, cell, Arena.Cell.position?]
    simp only [kind, htext, hnormal, child?, hnamed fun name ↦ name = key.text,
      hnamed fun name ↦ normalName name = key.normal]
    cases hfound : entries.findIdx? fun entry ↦ decide (entry.1 = key.text) with
    | none => cases exact <;> rfl
    | some i =>
      obtain ⟨hlt, -⟩ := List.findIdx?_eq_some_iff_getElem.1 hfound
      simp [hlt]

end Node

namespace Tree

open Node (Context cells)

variable {t : Tree} {id i p : NodeId} {n d : Node} {key : Key}

/-- What is stored of the nodes of a tree. -/
def cells (t : Tree) : List (NodeId × Cell) :=
  t.tops.flatMap (Node.cells none)

/-- What an arena of the tree has besides its entries. -/
def frame (t : Tree) : Arena :=
  ⟨#[], [], t.root.id, t.scratch.map Node.id, t.registry, t.log⟩

/-- The arena that keeps a tree. -/
def arena (t : Tree) : Arena :=
  t.frame.withCells t.slots t.cells

theorem map_fst_cells (t : Tree) : t.cells.map Prod.fst = t.ids :=
  Node.map_fst_flatMap_cells none t.tops

namespace Sound

theorem holds_cells (h : t.Sound) : t.slots.Holds (t.cells.map Prod.fst) := by
  rw [map_fst_cells]
  exact h.handles

/-! ### What is stored -/

theorem parent?_split (h : t.Sound) {before after : List Node} {c : Context}
    (hsplit : t.tops = before ++ Context.fill c n :: after) :
    t.parent? n.id = Context.parent? c none := by
  rcases List.eq_nil_or_concat c with rfl | ⟨c, f, rfl⟩
  · exact h.parent?_of_mem_tops (by simp [hsplit])
  · rw [List.concat_eq_append] at hsplit ⊢
    rw [Context.parent?_concat, ← f.id_fill n]
    rw [Context.fill_append] at hsplit
    exact h.parent?_child (h.node?_split hsplit) (f.key_mem_children_fill n)

/-- The cells of a tree are those of a node and others that see the handle of the node only. -/
theorem exists_cells (h : t.Sound) (hn : t.node? id = some n) : ∃ others,
    t.cells.Perm (n.cells (t.parent? id) ++ others) ∧ ∀ new : Node, new.id = id →
      ((t.tops.map (Node.replace id new)).flatMap (Node.cells none)).Perm
        (new.cells (t.parent? id) ++ others) := by
  obtain rfl := id_of_node? hn
  obtain ⟨before, c, after, hsplit, houtside⟩ := h.split hn
  obtain ⟨others, hothers⟩ := Node.exists_cells_split before c after n.id
  rw [h.parent?_split hsplit]
  refine ⟨others, ?_, fun new hnew ↦ ?_⟩
  · rw [Tree.cells, hsplit]
    exact hothers n rfl
  · rw [hsplit, Node.map_replace_split new (houtside n.id n.id_mem_ids), Node.replace_self]
    exact hothers new hnew

/-- The arena has at a handle what the tree has there. -/
theorem cell?_arena (h : t.Sound) (id : NodeId) :
    t.arena.cell? id = (t.node? id).map fun n ↦ n.cell (t.parent? id) := by
  rw [arena, Arena.cell?_withCells h.holds_cells]
  cases hn : t.node? id with
  | none =>
    refine Arena.lookup_eq_none ?_
    rwa [map_fst_cells, ← node?_eq_none]
  | some n =>
    obtain ⟨others, hperm, -⟩ := h.exists_cells hn
    rw [Option.map_some, Arena.lookup_eq_some_iff h.holds_cells.nodup, hperm.mem_iff,
      Node.cells_eq, id_of_node? hn]
    exact List.mem_cons_self ..

theorem contains_arena (h : t.Sound) (id : NodeId) : t.arena.contains id = t.contains id := by
  rw [Arena.contains, h.cell?_arena, Option.isSome_map, contains]

theorem kind?_arena (h : t.Sound) (id : NodeId) : t.arena.kind? id = t.kind? id := by
  rw [Arena.kind?, h.cell?_arena, Option.map_map]
  rfl

theorem children_arena (h : t.Sound) (id : NodeId) : t.arena.children id = t.listing id := by
  rw [Arena.children, h.cell?_arena, listing, view]
  cases t.node? id <;> rfl

theorem hasChildren_arena (h : t.Sound) (id : NodeId) :
    t.arena.hasChildren id = (t.view id).hasChildren := by
  rw [Arena.hasChildren, h.children_arena, listing, Node.listing, List.isEmpty_map,
    Node.hasChildren]

theorem parent?_arena (h : t.Sound) (id : NodeId) : t.arena.parent? id = t.parent? id := by
  rw [Arena.parent?, h.cell?_arena]
  cases hn : t.node? id with
  | none =>
    rw [parent?, lastStep?, trail_of_not_contains (node?_eq_none.1 hn)]
    rfl
  | some n => rfl

/-! ### Going down -/

/-- The arena of a tree has the cells of each of its nodes; when the node is exchanged for another
one of its handle, the other cells stay. -/
theorem exists_exchange (h : t.Sound) (hn : t.node? id = some n) : ∃ others,
    t.slots.Holds ((n.cells (t.parent? id) ++ others).map Prod.fst) ∧
      t.arena = t.frame.withCells t.slots (n.cells (t.parent? id) ++ others) ∧
      ∀ (new : Node) (s : Slots), new.id = id →
        s.Holds ((new.cells (t.parent? id) ++ others).map Prod.fst) →
        { t.mapTops (Node.replace id new) with slots := s }.arena =
          t.frame.withCells s (new.cells (t.parent? id) ++ others) := by
  obtain ⟨others, hperm, hexchange⟩ := h.exists_cells hn
  refine ⟨others, h.holds_cells.of_perm (hperm.map _),
    Arena.withCells_perm h.holds_cells.nodup hperm, fun new s hnew hs ↦ ?_⟩
  have hcells := hexchange new hnew
  have hframe : { t.mapTops (Node.replace id new) with slots := s }.frame = t.frame := by
    simp [frame, mapTops, Node.id_replace hnew]
  rw [← tops_mapTops] at hcells
  rw [arena, hframe]
  exact (Arena.withCells_perm hs.nodup hcells.symm).symm

theorem value_arena (h : t.Sound) (id : NodeId) : t.arena.value id = some (t.value id) := by
  cases hn : t.node? id with
  | none =>
    rw [Arena.value, h.cell?_arena, hn, value, view, hn]
    rfl
  | some n =>
    obtain ⟨others, hothers, harena, -⟩ := h.exists_exchange hn
    obtain rfl := id_of_node? hn
    rw [harena, Arena.value_withCells hothers (h.distinct_of_node? hn), value_of_node? hn]

theorem descendants_arena (h : t.Sound) (id : NodeId) :
    t.arena.descendants id = some (t.descendants id) := by
  cases hn : t.node? id with
  | none =>
    rw [Arena.descendants, h.children_arena, listing, descendants, view, hn]
    rfl
  | some n =>
    obtain ⟨others, hothers, harena, -⟩ := h.exists_exchange hn
    obtain rfl := id_of_node? hn
    rw [harena, Arena.descendants_withCells hothers, descendants, view_of_node? hn]

theorem child?_arena (h : t.Sound) (id : NodeId) (key : Key) (exact : Bool) :
    t.arena.child? id key exact = t.child? id key exact := by
  rw [Arena.child?, h.cell?_arena, h.children_arena, child?, listing, view]
  cases t.node? id with
  | none => rfl
  | some n =>
    rw [Option.getD_some, n.child?_eq (t.parent? id)]
    cases hposition : (n.cell (t.parent? id)).position? key exact with
    | none => simp [hposition]
    | some position =>
      rw [Option.bind_some, n.getElem?_childNodes]
      simp only [Option.map_some, Option.bind_eq_bind, Option.bind_some, hposition]
      cases n.listing[position]? <;> rfl

/-! ### Going up -/

theorem key?_arena (h : t.Sound) (id : NodeId) : t.arena.key? id = t.key? id := by
  rw [Arena.key?, h.parent?_arena]
  cases hp : t.parent? id with
  | none =>
    rw [parent?, Option.map_eq_none_iff] at hp
    rw [key?, hp]
    rfl
  | some p =>
    obtain ⟨key, before, after, hentry⟩ := h.exists_entry hp
    have hbefore : before.find? (fun child ↦ child.2 = id) = none := by
      rw [List.find?_eq_none]
      intro entry hmem
      simpa using (hentry.only entry (List.mem_append_left _ hmem)).2
    rw [Option.bind_eq_bind, Option.bind_some, h.children_arena, hentry.listing,
      List.find?_append, hbefore, List.find?_cons_of_pos (by simp), hentry.key?]
    rfl

theorem index?_arena (h : t.Sound) (id : NodeId) : t.arena.index? id = t.index? id := by
  rw [Arena.index?, h.parent?_arena]
  cases hp : t.parent? id with
  | none =>
    rw [parent?, Option.map_eq_none_iff] at hp
    rw [index?, hp]
    rfl
  | some p =>
    rw [h.index?_eq_findIdx? hp, ← h.children_arena]
    rfl

theorem siblings_arena (h : t.Sound) (id : NodeId) : t.arena.siblings id = t.siblings id := by
  rw [Arena.siblings, h.parent?_arena]
  cases hp : t.parent? id with
  | none =>
    rw [parent?, Option.map_eq_none_iff] at hp
    rw [siblings, hp]
  | some p => rw [h.siblings_eq hp, ← h.children_arena]

theorem ancestors_arena (h : t.Sound) (id : NodeId) :
    t.arena.ancestors id = some (t.ancestors id) := by
  induction id using h.wellFounded_parent.induction with
  | _ id ih =>
    rw [Arena.ancestors, h.parent?_arena, h.ancestors_eq id]
    cases hp : t.parent? id with
    | none => rfl
    | some p =>
      dsimp only
      rw [ih p hp]
      rfl

theorem rootOf_arena (h : t.Sound) (id : NodeId) : t.arena.rootOf id = some (t.rootOf id) := by
  rw [Arena.rootOf, h.ancestors_arena, rootOf_eq]
  rfl

theorem path?_arena (h : t.Sound) (id : NodeId) : t.arena.path? id = t.path? id := by
  rw [Arena.path?, h.parent?_arena, h.key?_arena]
  cases hp : t.parent? id with
  | none =>
    rw [parent?, Option.map_eq_none_iff] at hp
    rw [path?, key?, hp]
    rfl
  | some p =>
    obtain ⟨n, key, d, hn, hd, rfl⟩ := h.exists_of_parent? hp
    have hkind := Node.container_of_mem_children hd
    have harena : t.arena.kind? p = some key.container := by
      rw [h.kind?_arena, kind?_of_node? hn, hkind]
    rw [path?, h.key?_child hn hd]
    simp only [Option.bind_eq_bind, Option.bind_some, harena]
    cases key <;> rfl

/-- Climbing along the links to parents passes the steps down to a node in reverse. -/
theorem climb_arena (h : t.Sound) {α : Type} (name : NodeId → Option α) (f : Step → α)
    (hname : ∀ i, name i = (t.lastStep? i).map f) (id : NodeId) :
    t.arena.climb name id = some (some (((t.trail id).map f).reverse, t.rootOf id)) := by
  induction id using h.wellFounded_parent.induction with
  | _ id ih =>
    rw [Arena.climb, h.parent?_arena]
    cases hp : t.parent? id with
    | none =>
      have htrail : t.trail id = [] := by
        rw [parent?, Option.map_eq_none_iff, lastStep?, List.getLast?_eq_none_iff] at hp
        exact hp
      rw [h.rootOf_of_parent?_eq_none hp, htrail]
      rfl
    | some p =>
      rw [h.rootOf_of_parent? hp]
      obtain ⟨n, key, d, hn, hd, rfl⟩ := h.exists_of_parent? hp
      have htrail := h.trail_child hn hd
      rw [hname, lastStep?, htrail, List.getLast?_concat]
      dsimp only [Option.map_some]
      rw [ih p hp, List.map_append, List.reverse_append]
      rfl

/-- The absolute path of a node of the document is that of the steps down to it. -/
theorem absolutePath?_eq (h : t.Sound) (id : NodeId) :
    t.absolutePath? id = if id ∈ t.root.ids then
      some (".".intercalate ((t.trail id).map fun step ↦ step.key.segment)) else none := by
  split
  · rename_i hid
    obtain ⟨n, hn⟩ := Node.exists_find? hid
    obtain rfl := Node.id_of_find? hn
    obtain ⟨c, hroot⟩ := Node.exists_fill hn
    have hnodup := h.nodup_ids_root
    rw [hroot] at hnodup
    rw [absolutePath?, h.trail_root hroot, hroot,
      Context.trail?_fill (Context.notMem_ids_of_nodup hnodup n.id_mem_ids), Node.trail?_self,
      Option.map_some, Option.map_some, List.append_nil]
  · rename_i hid
    rw [absolutePath?, Node.trail?_of_notMem hid, Option.map_none]

theorem absolutePath_arena (h : t.Sound) (id : NodeId) :
    t.arena.absolutePath id = some (t.absolutePath? id) := by
  have hclimb := h.climb_arena t.arena.path? (fun step ↦ step.key.segment)
    (fun i ↦ by rw [h.path?_arena, path?, key?, Option.map_map]; rfl) id
  have hroot : t.arena.root = t.root.id := rfl
  rw [Arena.absolutePath, h.contains_arena, h.absolutePath?_eq]
  by_cases hid : id ∈ t.ids
  · rw [if_pos (contains_iff.2 hid), hclimb]
    simp only [Option.bind_eq_bind, Option.bind_some, List.reverse_reverse, hroot,
      h.rootOf_eq_root_iff hid]
    rfl
  · have hroot : id ∉ t.root.ids := fun hmem ↦ hid (mem_ids_of_mem_root hmem)
    rw [if_neg fun hlive ↦ hid (contains_iff.1 hlive), if_neg hroot]

end Sound

end Tree

end DocPath
