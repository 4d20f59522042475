import DocPath.Proofs.Node.Apart
import DocPath.Proofs.Node.Order
import DocPath.Proofs.Tree.Sound

/-!
# Where nodes are

In a sound tree the steps down to a child are those down to its parent and one more
(`Sound.trail_child`), and every node that has steps down to it is such a child
(`Sound.exists_of_parent?`). So parents, keys and ancestors say of a node what the children of its
parent say of it, and since the steps down to a parent are fewer, no chain of parents goes on
forever (`Sound.wellFounded_parent`).
-/

namespace DocPath

namespace Tree

open Node (Context)

variable {t : Tree} {id i p : NodeId} {n m d : Node} {key : Key}

/-- The handles without a node have no steps down to them. -/
theorem trail_of_not_contains (h : id ∉ t.ids) : t.trail id = [] := by
  have hnone : t.tops.findSome? (Node.trail? id) = none := by
    rw [List.findSome?_eq_none_iff]
    exact fun m hm ↦ Node.trail?_of_notMem fun hid ↦ h (List.mem_flatMap.2 ⟨m, hm, hid⟩)
  rw [trail, hnone]
  rfl

/-- The top above a node is the last of its ancestors. -/
theorem rootOf_eq (t : Tree) (id : NodeId) :
    t.rootOf id = ((t.ancestors id).getLast?).getD id := by
  unfold rootOf ancestors
  cases t.trail id <;> simp

namespace Sound

theorem nodup_ids (h : t.Sound) (hn : t.node? id = some n) : n.ids.Nodup := by
  obtain ⟨before, c, after, hsplit, -⟩ := h.split hn
  have hfill := h.nodup_ids_of_mem_tops (n := Context.fill c n) (by simp [hsplit])
  exact Node.Context.nodup_of_nodup_fill hfill

theorem nodup_ids_view (h : t.Sound) (id : NodeId) : (t.view id).ids.Nodup := by
  cases hn : t.node? id with
  | none =>
    rw [view, hn]
    exact List.nodup_singleton id
  | some n =>
    rw [view_of_node? hn]
    exact h.nodup_ids hn

/-- The steps down to a node are those of the context it fills. -/
theorem trail_split (h : t.Sound) {before after : List Node} {c : Context}
    (hsplit : t.tops = before ++ Context.fill c n :: after) :
    t.trail n.id = Context.steps c n := by
  have hnodup := h.handles.nodup
  rw [ids, hsplit] at hnodup
  have houtside := Node.notMem_outsideIds hnodup n.id_mem_ids
  rw [trail, hsplit, Node.findSome?_trail?_split houtside, Node.trail?_self]
  simp

/-- The ancestors of a node that fills a context in a tree are the containers of the context. -/
theorem ancestors_split (h : t.Sound) {before after : List Node} {c : Context}
    (hsplit : t.tops = before ++ Context.fill c n :: after) :
    t.ancestors n.id = (Context.spine c).reverse := by
  rw [ancestors, h.trail_split hsplit, Context.map_parent_steps]

/-- The steps down to a node of the document are those of the context that it fills. -/
theorem trail_root (h : t.Sound) {c : Context} (hroot : t.root = Context.fill c n) :
    t.trail n.id = Context.steps c n := by
  have hsplit : t.tops = [] ++ Context.fill c n :: (t.adopted ++ t.scratch) := by
    rw [tops, hroot, List.nil_append]
  exact h.trail_split hsplit

/-- The containers above a node of the document are those of the context that it fills. -/
theorem ancestors_root (h : t.Sound) {c : Context} (hroot : t.root = Context.fill c n) :
    t.ancestors n.id = (Context.spine c).reverse := by
  rw [ancestors, h.trail_root hroot, Context.map_parent_steps]

/-- A node that fills a context in a tree is the node of its handle. -/
theorem node?_split (h : t.Sound) {before after : List Node} {c : Context}
    (hsplit : t.tops = before ++ Context.fill c n :: after) : t.node? n.id = some n := by
  have hnodup := h.handles.nodup
  rw [ids, hsplit] at hnodup
  rw [node?, hsplit, Node.findSome?_find?_split (Node.notMem_outsideIds hnodup n.id_mem_ids),
    Node.find?_self]

/-- What is below a live node is live. -/
theorem node?_of_mem (h : t.Sound) (hn : t.node? id = some n) (hd : d ∈ n :: n.descendants) :
    t.node? d.id = some d := by
  obtain rfl := id_of_node? hn
  obtain ⟨before, c, after, hsplit, -⟩ := h.split hn
  obtain ⟨c', rfl⟩ := Node.exists_fill_of_mem hd
  rw [← Context.fill_append] at hsplit
  exact h.node?_split hsplit

/-- What is below the node that a handle shows is live. -/
theorem node?_of_mem_view (h : t.Sound) (hd : d ∈ (t.view id).descendants) :
    t.node? d.id = some d := by
  cases hn : t.node? id with
  | none =>
    rw [view, hn] at hd
    cases hd
  | some n =>
    rw [view_of_node? hn] at hd
    exact h.node?_of_mem hn (List.mem_cons_of_mem n hd)

theorem trail_of_mem_tops (h : t.Sound) (hn : n ∈ t.tops) : t.trail n.id = [] := by
  obtain ⟨before, after, hsplit⟩ := List.append_of_mem hn
  exact h.trail_split (c := []) hsplit

theorem node?_of_mem_tops (h : t.Sound) (hn : n ∈ t.tops) : t.node? n.id = some n := by
  obtain ⟨before, after, hsplit⟩ := List.append_of_mem hn
  exact h.node?_split (c := []) hsplit

theorem trail_child (h : t.Sound) (hn : t.node? id = some n) (hd : (key, d) ∈ n.children) :
    t.trail d.id = t.trail id ++ [⟨n, key⟩] := by
  obtain rfl := id_of_node? hn
  obtain ⟨before, c, after, hsplit, -⟩ := h.split hn
  obtain ⟨f, rfl, rfl⟩ := Node.exists_frame hd
  have hsplit' : t.tops = before ++ Context.fill (c ++ [f]) d :: after := by
    rw [hsplit, Context.fill_append]
    rfl
  rw [h.trail_split hsplit, h.trail_split hsplit', Context.steps_append]
  rfl

/-- A node with steps down to it is a child of a live node, and the last of the steps says so. -/
theorem trail_eq_nil_or (h : t.Sound) (id : NodeId) :
    t.trail id = [] ∨ ∃ n key d, t.node? n.id = some n ∧ (key, d) ∈ n.children ∧ d.id = id := by
  by_cases hid : id ∈ t.ids
  · obtain ⟨d, hd⟩ := exists_node? hid
    obtain rfl := id_of_node? hd
    obtain ⟨before, c, after, hsplit, -⟩ := h.split hd
    -- a node without a frame around it is a top
    rcases List.eq_nil_or_concat c with rfl | ⟨c, f, rfl⟩
    · exact .inl (h.trail_split hsplit)
    · rw [List.concat_eq_append, Context.fill_append] at hsplit
      exact .inr ⟨f.fill d, f.key, d, h.node?_split hsplit, f.key_mem_children_fill d, rfl⟩
  · exact .inl (trail_of_not_contains hid)

/-! ### Parents -/

theorem parent?_child (h : t.Sound) (hn : t.node? id = some n) (hd : (key, d) ∈ n.children) :
    t.parent? d.id = some id := by
  rw [parent?, lastStep?, h.trail_child hn hd, List.getLast?_concat, Option.map_some,
    id_of_node? hn]

theorem key?_child (h : t.Sound) (hn : t.node? id = some n) (hd : (key, d) ∈ n.children) :
    t.key? d.id = some key := by
  rw [key?, lastStep?, h.trail_child hn hd, List.getLast?_concat, Option.map_some]

theorem parent?_of_mem_tops (h : t.Sound) (hn : n ∈ t.tops) : t.parent? n.id = none := by
  rw [parent?, lastStep?, h.trail_of_mem_tops hn]
  rfl

/-- A node with a parent is one of the children of that parent. -/
theorem exists_of_parent? (h : t.Sound) (hp : t.parent? id = some p) :
    ∃ n key d, t.node? p = some n ∧ (key, d) ∈ n.children ∧ d.id = id := by
  rcases h.trail_eq_nil_or id with hnil | ⟨n, key, d, hn, hd, rfl⟩
  · rw [parent?, lastStep?, hnil] at hp
    cases hp
  · rw [h.parent?_child hn hd, Option.some.injEq] at hp
    exact ⟨n, key, d, hp ▸ hn, hd, rfl⟩

theorem parent?_eq_some_iff (h : t.Sound) :
    t.parent? id = some p ↔ ∃ n, t.node? p = some n ∧ id ∈ n.childNodes.map Node.id := by
  constructor
  · intro hp
    obtain ⟨n, key, d, hn, hd, rfl⟩ := h.exists_of_parent? hp
    exact ⟨n, hn, List.mem_map_of_mem (Node.mem_childNodes.2 ⟨key, hd⟩)⟩
  · rintro ⟨n, hn, hid⟩
    obtain ⟨d, hd, rfl⟩ := List.mem_map.1 hid
    obtain ⟨key, hkey⟩ := Node.mem_childNodes.1 hd
    exact h.parent?_child hn hkey

/-- A node whose parent is at or below another node is below that one. -/
theorem mem_descendants_of_parent? (h : t.Sound) (hn : t.node? n.id = some n)
    (hp : t.parent? i = some p) (hmem : p ∈ n.ids) : i ∈ n.descendants.map Node.id := by
  obtain ⟨m, hm, hi⟩ := h.parent?_eq_some_iff.1 hp
  obtain ⟨x, hx, rfl⟩ := Node.mem_ids_iff_eq_or_mem_descendants.1 hmem
  obtain rfl : x = m := Option.some.inj ((h.node?_of_mem hn hx).symm.trans hm)
  obtain ⟨c, hc, rfl⟩ := List.mem_map.1 hi
  exact List.mem_map_of_mem
    (Node.descendants_subset_of_mem hx (Node.mem_descendants_of_mem_childNodes hc))

/-- The children of a live node list no node twice. -/
theorem nodup_children (h : t.Sound) (hn : t.node? id = some n) :
    (n.children.map fun child ↦ child.2.id).Nodup := by
  have hnodup := Node.nodup_map_id_childNodes (h.nodup_ids hn)
  rwa [Node.childNodes, List.map_map] at hnodup

theorem length_trail_lt (h : t.Sound) (hp : t.parent? id = some p) :
    (t.trail p).length < (t.trail id).length := by
  obtain ⟨n, key, d, hn, hd, rfl⟩ := h.exists_of_parent? hp
  rw [h.trail_child hn hd, List.length_append, List.length_singleton]
  exact Nat.lt_succ_self _

/-- There is no endless chain of parents, and in particular no cycle. -/
theorem wellFounded_parent (h : t.Sound) :
    WellFounded fun parent child ↦ t.parent? child = some parent :=
  Subrelation.wf (fun hp ↦ h.length_trail_lt hp)
    (InvImage.wf (fun id ↦ (t.trail id).length) Nat.lt_wfRel.wf)

/-- The ancestors of a node are its parent and the ancestors of that. -/
theorem ancestors_eq (h : t.Sound) (id : NodeId) :
    t.ancestors id =
      match t.parent? id with
      | some parent => parent :: t.ancestors parent
      | none => [] := by
  rcases h.trail_eq_nil_or id with hnil | ⟨n, key, d, hn, hd, rfl⟩
  · simp [ancestors, parent?, lastStep?, hnil]
  · rw [h.parent?_child hn hd]
    simp [ancestors, h.trail_child hn hd]

/-- A node above another one is one of its ancestors. -/
theorem mem_ancestors_of_mem_descendants (h : t.Sound) (hm : t.node? i = some m)
    (hd : d ∈ m.descendants) : i ∈ t.ancestors d.id := by
  obtain rfl := id_of_node? hm
  obtain ⟨before, c, after, hsplit, -⟩ := h.split hm
  obtain ⟨e, f, rfl⟩ := Node.exists_fill_of_mem_descendants hd
  rw [← Context.fill_append, ← List.append_assoc] at hsplit
  rw [h.ancestors_split hsplit, List.mem_reverse, Context.spine_append, Context.fill_append,
    Context.spine_append]
  have hmem := Context.id_fill_mem e (f.fill d)
  rw [Node.Frame.id_fill] at hmem
  rw [List.append_assoc]
  exact List.mem_append_right _ hmem

/-- A node at or below another one has that one as an ancestor, or is that one itself. -/
theorem eq_or_mem_ancestors (h : t.Sound) (hm : t.node? i = some m) (hid : id ∈ m.ids) :
    i = id ∨ i ∈ t.ancestors id := by
  obtain ⟨d, hd, rfl⟩ := Node.mem_ids_iff_eq_or_mem_descendants.1 hid
  rcases List.mem_cons.1 hd with rfl | hd
  · exact .inl (id_of_node? hm).symm
  · exact .inr (h.mem_ancestors_of_mem_descendants hm hd)

end Sound

end Tree

end DocPath
